import ZigbeeGateway.Proofs.Resource.Soundness

/-!
# Contents and ETags

The *content* of a resource is the resource without what waits: for the hardware, for a save or for
clients to be told.  Making an update known and moving pending changes on leave contents alone.

An ETag is a function of the revision and of what is shown, the public suffixes and values
(`computeEtag_congr`).  A later state of a resource *tracks* an earlier one if what is shown cannot
have changed behind its revision and its ETag.  Sets track (`tracks_setValue`): a set of a public
item refreshes the ETag, and any other shows nothing.
-/

namespace ZigbeeGateway

/-- The item, whether clients have to be told about it or not. -/
def Item.quiet (item : Item) : Item :=
  { item with needPush := false }

theorem Item.eq_of_quiet_eq {α : Type*} {item item' : Item} (f : Item → α)
    (hf : ∀ i, f i.quiet = f i) (h : item'.quiet = item.quiet) : f item' = f item := by
  rw [← hf item', h, hf item]

namespace Resource

open Relation

variable {touched : String → Prop} {r r' r'' : Resource} {suffix s : String} {v : Value}
  {now : Instant} {o : SetOutcome}

/-! ### Contents -/

/-- The resource without what waits. -/
def content (r : Resource) : Resource :=
  { r with items := r.items.map Item.quiet, changes := [], needsSave := false }

/-- Resources of one content agree in all that the content keeps. -/
theorem eq_of_content_eq {α : Type*} (f : Resource → α) (hf : ∀ r, f r.content = f r)
    (h : r'.content = r.content) : f r' = f r := by
  rw [← hf r', h, hf r]

theorem item?_content (r : Resource) (s : String) :
    r.content.item? s = (r.item? s).map Item.quiet := by
  unfold item? content
  rw [List.find?_map]
  rfl

theorem map_quiet_item? (h : r'.content = r.content) (s : String) :
    (r'.item? s).map Item.quiet = (r.item? s).map Item.quiet := by
  rw [← item?_content, h, item?_content]

theorem value?_content (r : Resource) (s : String) : r.content.value? s = r.value? s := by
  rw [value?, item?_content, value?]
  cases r.item? s <;> rfl

theorem value?_of_content_eq (h : r'.content = r.content) (s : String) :
    r'.value? s = r.value? s :=
  eq_of_content_eq (·.value? s) (fun r => r.value?_content s) h

/-- What clients are shown of the resource: its public suffixes and values, in order. -/
def shown (r : Resource) : List (String × Option Value) :=
  r.publicItems.map fun i => (i.suffix, i.value)

theorem shown_of_content_eq (h : r'.content = r.content) : r'.shown = r.shown := by
  refine eq_of_content_eq shown (fun r => ?_) h
  unfold shown publicItems content
  rw [List.filter_map, List.map_map]
  rfl

/-- The names of the items, in order. -/
def suffixes (r : Resource) : List String :=
  r.items.map Item.suffix

theorem suffixes_of_content_eq (h : r'.content = r.content) : r'.suffixes = r.suffixes := by
  refine eq_of_content_eq suffixes (fun r => ?_) h
  unfold suffixes content
  rw [List.map_map]
  rfl

theorem content_modifyItem (r : Resource) {f : Item → Item} (hf : ∀ i, (f i).quiet = i.quiet)
    (suffix : String) : (r.modifyItem suffix f).content = r.content := by
  unfold content modifyItem
  rw [List.map_map]
  congr 1
  refine List.map_congr_left fun i _ => ?_
  rw [Function.comp_apply]
  split_ifs
  · exact hf i
  · rfl

/-- That clients were told of an item leaves the content alone. -/
theorem content_told (r : Resource) (suffix : String) :
    (r.modifyItem suffix fun i => { i with needPush := false }).content = r.content :=
  r.content_modifyItem (f := fun i => { i with needPush := false }) (fun _ => rfl) suffix

/-- Queueing a change leaves the content alone. -/
theorem content_addChange (r : Resource) (c : StateChange) : (r.addChange c).content = r.content :=
  rfl

/-! ### ETags -/

/-- **The ETag is a function of the revision and of what is shown.** -/
theorem computeEtag_congr (hrevision : r'.revision = r.revision) (hshown : r'.shown = r.shown) :
    r'.computeEtag = r.computeEtag := by
  -- The bytes of an item are the ones of its suffix and its value.
  have hbytes : ∀ r : Resource, r.publicItems.flatMap itemBytes =
      r.shown.flatMap fun (suffix, value) => itemBytes { suffix, type := .bool, value } := by
    intro r
    rw [shown, List.flatMap_map]
    rfl
  unfold computeEtag etagBytes
  rw [hbytes, hbytes, hshown, hrevision]

/-- The ETag is the one of the current revision and items. -/
def IsTagged (r : Resource) : Prop :=
  r.etag = r.computeEtag

instance (r : Resource) : Decidable r.IsTagged :=
  inferInstanceAs (Decidable (_ = _))

theorem isTagged_refreshEtag (r : Resource) : r.refreshEtag.IsTagged :=
  rfl

/-- A later state of a resource: the revision did not go back, it went up if something else is
shown, and the ETag goes with both. -/
structure Tracks (r r' : Resource) : Prop where
  revision : r.revision ≤ r'.revision
  shown : r'.shown ≠ r.shown → r.revision < r'.revision
  tagged : r.IsTagged → r'.IsTagged

namespace Tracks

theorem refl (r : Resource) : Tracks r r :=
  ⟨Nat.le_refl _, fun h => absurd rfl h, fun h => h⟩

theorem trans (h : Tracks r r') (h' : Tracks r' r'') : Tracks r r'' := by
  refine ⟨Nat.le_trans h.revision h'.revision, fun hshown => ?_, fun hr => h'.tagged (h.tagged hr)⟩
  by_cases hfirst : r'.shown = r.shown
  · exact Nat.lt_of_le_of_lt h.revision (h'.shown (hfirst ▸ hshown))
  · exact Nat.lt_of_lt_of_le (h.shown hfirst) h'.revision

/-- Nothing else is shown, under the same ETag. -/
theorem of_eq (hrevision : r'.revision = r.revision) (hetag : r'.etag = r.etag)
    (hshown : r'.shown = r.shown) : Tracks r r' := by
  refine ⟨Nat.le_of_eq hrevision.symm, fun h => absurd hshown h, fun hr => ?_⟩
  rw [IsTagged, hetag, hr, computeEtag_congr hrevision hshown]

theorem of_content_eq (h : r'.content = r.content) : Tracks r r' :=
  .of_eq (eq_of_content_eq Resource.revision (fun _ => rfl) h)
    (eq_of_content_eq Resource.etag (fun _ => rfl) h) (shown_of_content_eq h)

/-- Once the ETag is refreshed, anything may be shown. -/
theorem refreshEtag (h : r.revision ≤ r'.revision) : Tracks r r'.refreshEtag :=
  ⟨Nat.le_succ_of_le h, fun _ => Nat.lt_succ_of_le h, fun _ => rfl⟩

end Tracks

/-! ### Sets -/

/-- **What a set does, in full**: one item is set, and the ETag is refreshed if the set was accepted
and the item is public. -/
theorem setValue_eq (h : r.setValue suffix v now = .ok (r', o)) :
    ∃ item item', r.item? suffix = some item ∧ item.set v now = .ok (item', o) ∧
      r' = if o.isAccepted && item.isPublic then
          (r.modifyItem suffix fun _ => item').refreshEtag
        else r.modifyItem suffix fun _ => item' := by
  unfold setValue at h
  split at h
  · cases h
  · rename_i item hitem
    split at h
    · cases h
    · rename_i item' outcome hset
      obtain ⟨rfl, rfl⟩ := Prod.mk.inj (Except.ok.inj h)
      have hpublic := Item.isPublic_of_shape_eq (Item.set_shape hset)
      exact ⟨item, item', hitem, hset, by rw [hpublic]⟩

/-- With distinct names, the item that is found under a suffix is the only one. -/
theorem eq_of_mem_items (hr : r.suffixes.Nodup) {item i : Item} (hitem : r.item? suffix = some item)
    (hi : i ∈ r.items) (hs : i.suffix = suffix) : i = item :=
  List.inj_on_of_nodup_map hr hi (List.mem_of_find?_eq_some hitem)
    (hs.trans (suffix_of_item? hitem).symm)

theorem suffixes_modifyItem (r : Resource) {f : Item → Item}
    (hf : ∀ i, i.suffix = suffix → (f i).suffix = suffix) :
    (r.modifyItem suffix f).suffixes = r.suffixes := by
  unfold suffixes modifyItem
  rw [List.map_map]
  refine List.map_congr_left fun i _ => ?_
  rw [Function.comp_apply]
  split_ifs with hs
  · rw [hf i hs, hs]
  · rfl

/-- An item that stays as it is may be put back. -/
theorem modifyItem_self (hr : r.suffixes.Nodup) {item : Item} (hitem : r.item? suffix = some item) :
    (r.modifyItem suffix fun _ => item) = r := by
  have hitems : (r.items.map fun i => if i.suffix = suffix then item else i) = r.items := by
    refine (List.map_congr_left fun i hi => ?_).trans (List.map_id _)
    split_ifs with hs
    · exact (eq_of_mem_items hr hitem hi hs).symm
    · rfl
  unfold modifyItem
  rw [hitems]

/-- Nobody is shown an item that is not public. -/
theorem shown_modifyItem (hr : r.suffixes.Nodup) {item item' : Item}
    (hitem : r.item? suffix = some item) (hpublic : item.isPublic = false)
    (hpublic' : item'.isPublic = false) :
    (r.modifyItem suffix fun _ => item').shown = r.shown := by
  have hrun : ∀ l : List Item, (∀ i ∈ l, i ∈ r.items) →
      (l.map fun i => if i.suffix = suffix then item' else i).filter (·.isPublic) =
        l.filter (·.isPublic) := by
    intro l
    induction l with
    | nil => exact fun _ => rfl
    | cons i l ih =>
      intro hl
      rw [List.map_cons, List.filter_cons, List.filter_cons,
        ih fun j hj => hl j (List.mem_cons_of_mem i hj)]
      by_cases hs : i.suffix = suffix
      · obtain rfl := eq_of_mem_items hr hitem (hl i List.mem_cons_self) hs
        simp [hs, hpublic, hpublic']
      · rw [if_neg hs]
  rw [shown, shown, publicItems, modifyItem, hrun r.items fun _ hi => hi, publicItems]

theorem suffixes_setValue (h : r.setValue suffix v now = .ok (r', o)) :
    r'.suffixes = r.suffixes := by
  obtain ⟨item, item', hitem, hset, hr'⟩ := setValue_cases h
  have hmodify : (r.modifyItem suffix fun _ => item').suffixes = r.suffixes :=
    r.suffixes_modifyItem fun _ _ => by rw [Item.set_suffix hset, suffix_of_item? hitem]
  rcases hr' with rfl | rfl
  · exact hmodify
  · exact hmodify

/-- **A set tracks.** -/
theorem tracks_setValue (hr : r.suffixes.Nodup) (h : r.setValue suffix v now = .ok (r', o)) :
    Tracks r r' := by
  obtain ⟨item, item', hitem, hset, rfl⟩ := setValue_eq h
  have hpublic' := Item.isPublic_of_shape_eq (Item.set_shape hset)
  split_ifs with hrefresh
  · exact .refreshEtag (Nat.le_refl _)
  · rw [Bool.and_eq_true, not_and_or, Bool.not_eq_true, Bool.not_eq_true] at hrefresh
    rcases hrefresh with hignored | hpublic
    · -- An ignored set puts the item back.
      obtain ⟨w, -, ⟨-, -, rfl⟩ | ⟨rfl, -, -⟩ | ⟨rfl, -, -⟩⟩ := Item.set_cases hset
      · rw [modifyItem_self hr hitem]
        exact .refl r
      · cases hignored
      · cases hignored
    · exact .of_eq rfl rfl (shown_modifyItem hr hitem hpublic (hpublic'.trans hpublic))

/-! ### Traffic and moves -/

theorem suffixes_traffic (h : Traffic touched r r') : r'.suffixes = r.suffixes := by
  cases h with
  | set _ h => exact suffixes_setValue h
  | note => rfl
  | told suffix => exact r.suffixes_modifyItem fun _ hi => hi
  | report suffix v => rfl
  | tick now => rfl

/-- Daily traffic tracks. -/
theorem tracks_traffic (hr : r.suffixes.Nodup) (h : Traffic touched r r') : Tracks r r' := by
  cases h with
  | set _ h => exact tracks_setValue hr h
  | note => exact .of_content_eq rfl
  | told suffix => exact .of_content_eq (r.content_told suffix)
  | report suffix v => exact .of_content_eq rfl
  | tick now => exact .of_content_eq rfl

/-- A later state of a resource: items stay, with their types, and if names are distinct, they stay
so and the state tracks. -/
structure Tends (r r' : Resource) : Prop where
  typed : ∀ s item, r.item? s = some item → ∃ item', r'.item? s = some item' ∧ item'.type = item.type
  distinct : r.suffixes.Nodup → r'.suffixes.Nodup
  tracks : r.suffixes.Nodup → Tracks r r'

namespace Tends

theorem refl (r : Resource) : Tends r r :=
  ⟨fun _ item h => ⟨item, h, rfl⟩, fun h => h, fun _ => .refl r⟩

theorem trans (h : Tends r r') (h' : Tends r' r'') : Tends r r'' := by
  refine ⟨fun s item hitem => ?_, fun hr => h'.distinct (h.distinct hr),
    fun hr => (h.tracks hr).trans (h'.tracks (h.distinct hr))⟩
  obtain ⟨item', hitem', htype⟩ := h.typed s item hitem
  obtain ⟨item'', hitem'', htype'⟩ := h'.typed s item' hitem'
  exact ⟨item'', hitem'', htype'.trans htype⟩

theorem of_content_eq (h : r'.content = r.content) : Tends r r' := by
  refine ⟨fun s item hitem => ?_, fun hr => suffixes_of_content_eq h ▸ hr, fun _ => .of_content_eq h⟩
  have hquiet := map_quiet_item? h s
  rw [hitem, Option.map_some] at hquiet
  obtain ⟨item', hitem', heq⟩ := Option.map_eq_some_iff.mp hquiet
  exact ⟨item', hitem', Item.eq_of_quiet_eq Item.type (fun _ => rfl) heq⟩

theorem of_traffic (h : ReflTransGen (Traffic touched) r r') : Tends r r' := by
  induction h with
  | refl => exact .refl r
  | tail _ hstep ih =>
    exact ih.trans ⟨hstep.carries.item, fun hr => suffixes_traffic hstep ▸ hr,
      fun hr => tracks_traffic hr hstep⟩

end Tends

end Resource

end ZigbeeGateway
