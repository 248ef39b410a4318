import ZigbeeGateway.Proofs.Setup.Parts

/-!
# How items fare

All that ever happens to an item is that it is set, restored from a row, or *dressed*: given other
flags and perhaps the handle of a template.  The items of a resource fare in this way, and blank ones
come in behind them.

What survives each step of an item and holds of blank items therefore holds of all items of a
resource over its whole life (`Holds.fares_run`); names and types are never changed, and new ones
come last (`continues_run`).  The relation is over the handles that are issued for a suffix, so that
it also tells which templates an item may be bound to.
-/

namespace ZigbeeGateway

open Relation

variable {issued : String → TemplateHandle → Prop}

namespace Item

variable {item item' : Item} {v : Value} {now : Instant}

/-- An item as it is added: nothing was set, and it has no template. -/
structure IsBlank (item : Item) : Prop where
  value : item.value = none
  lastSet : item.lastSet = none
  lastChanged : item.lastChanged = none
  template : item.template = none

theorem isBlank_new (suffix : String) (type : DataType) : IsBlank { suffix, type } :=
  ⟨rfl, rfl, rfl, rfl⟩

/-- The item without its flags and its template. -/
def cell (item : Item) : Item :=
  { suffix := item.suffix, type := item.type, value := item.value, lastSet := item.lastSet,
    lastChanged := item.lastChanged }

/-- One step in the life of an item.  Handles of templates come from those issued for its suffix. -/
inductive Fares (issued : String → TemplateHandle → Prop) : Item → Item → Prop
  | set {item item' : Item} {v : Value} {now : Instant} {o : SetOutcome}
      (h : item.set v now = .ok (item', o)) : Fares issued item item'
  | restore {item item' : Item} {row : Row} (h : row.restore? item = some item') :
      Fares issued item item'
  | dress {item item' : Item} (hcell : item'.cell = item.cell)
      (htemplate : ∀ handle, item'.template = some handle →
        item.template = some handle ∨ issued item.suffix handle) : Fares issued item item'

theorem refit_of_cell_eq (h : item'.cell = item.cell) : Refit item item' := by
  unfold cell at h
  injection h with hsuffix htype hvalue
  exact ⟨hsuffix, htype, fun hitem w hw => by rw [htype]; exact hitem w (hvalue ▸ hw)⟩

theorem Fares.refit (h : Fares issued item item') : Refit item item' := by
  cases h with
  | set h => exact refit_set h
  | restore h => exact refit_restore? h
  | dress hcell => exact refit_of_cell_eq hcell

theorem refit_of_fares (h : ReflTransGen (Fares issued) item item') : Refit item item' := by
  induction h with
  | refl => exact .refl item
  | tail _ hstep ih => exact ih.trans hstep.refit

theorem fares_setIfFits (item : Item) (v : Value) (now : Instant) :
    ReflTransGen (Fares issued) item (item.setIfFits v now) := by
  unfold setIfFits
  split
  · exact .single (.set ‹_›)
  · exact .refl

theorem fares_fillFrom (item : Item) (t : ItemTemplate) (now : Instant) :
    ReflTransGen (Fares issued) item (item.fillFrom t now) := by
  unfold fillFrom
  split
  · exact .refl
  · split
    · split_ifs
      · exact .refl
      · exact fares_setIfFits item _ now
    · exact .refl

/-- **Setting an item up** restores its row or fills it from its template. -/
theorem fares_setUp (item : Item) (t : ItemTemplate) (row : Option Row) (now : Instant) :
    ReflTransGen (Fares issued) item (item.setUp t row now) := by
  unfold setUp
  split_ifs
  · exact .refl
  · split
    · rename_i restored hrestored
      obtain ⟨row, -, hrow⟩ := Option.bind_eq_some_iff.mp hrestored
      exact .single (.restore hrow)
    · exact fares_fillFrom item t now

theorem fares_bind (item : Item) (t : ItemTemplate) {handle : Option TemplateHandle}
    (hhandle : ∀ h, handle = some h → issued item.suffix h) :
    Fares issued item (item.bind t handle) :=
  .dress rfl fun h hh => .inr (hhandle h hh)

end Item

namespace Resource

variable {r r' r'' : Resource} {suffix : String} {v : Value} {now : Instant}

/-- One step in the life of a resource, as far as its items are concerned. -/
inductive Fares (issued : String → TemplateHandle → Prop) : Resource → Resource → Prop
  /-- An item fares.  With distinct names it is the only one that is exchanged. -/
  | item (r : Resource) {suffix : String} {f : Item → Item}
      (h : r.suffixes.Nodup → ∀ i ∈ r.items, i.suffix = suffix →
        ReflTransGen (Item.Fares issued) i (f i)) : Fares issued r (r.modifyItem suffix f)
  /-- An item comes in that was blank. -/
  | add (r : Resource) {blank item : Item} (hblank : blank.IsBlank)
      (h : ReflTransGen (Item.Fares issued) blank item) : Fares issued r (r.addItem item)
  | beside {r r' : Resource} (h : r'.items = r.items) : Fares issued r r'

/-! ### What lasts -/

/-- The names and types of the items, in order. -/
def layout (r : Resource) : List (String × DataType) :=
  r.items.map fun i => (i.suffix, i.type)

theorem map_fst_layout (r : Resource) : r.layout.map Prod.fst = r.suffixes := by
  rw [layout, List.map_map]
  rfl

/-- Names are distinct and stay so, and items keep their names and types while new ones come
last. -/
structure Continues (r r' : Resource) : Prop where
  distinct : r.suffixes.Nodup → r'.suffixes.Nodup
  layout : r.suffixes.Nodup → r.layout <+: r'.layout

theorem Continues.refl (r : Resource) : Continues r r :=
  ⟨fun h => h, fun _ => List.prefix_refl _⟩

theorem Continues.trans (h : Continues r r') (h' : Continues r' r'') : Continues r r'' :=
  ⟨fun hr => h'.distinct (h.distinct hr),
    fun hr => (h.layout hr).trans (h'.layout (h.distinct hr))⟩

theorem Continues.of_layout_eq (h : r.suffixes.Nodup → r'.layout = r.layout) : Continues r r' := by
  refine ⟨fun hr => ?_, fun hr => h hr ▸ List.prefix_refl _⟩
  rw [← map_fst_layout, h hr, map_fst_layout]
  exact hr

theorem Fares.continues (h : Fares issued r r') : Continues r r' := by
  -- An item is refitted in its place, or a blank one is put behind the others.
  cases h with
  | @item suffix f h =>
    refine .of_layout_eq fun hr => ?_
    unfold layout modifyItem
    rw [List.map_map]
    refine List.map_congr_left fun i hi => ?_
    rw [Function.comp_apply]
    split_ifs with hs
    · have hrefit := Item.refit_of_fares (h hr i hi hs)
      rw [hrefit.suffix, hrefit.type]
    · rfl
  | @add blank item _ _ =>
    refine ⟨fun hr => nodup_addItem hr item, fun _ => ?_⟩
    unfold addItem
    split_ifs
    · exact List.prefix_refl _
    · rw [layout, layout, List.map_append]
      exact List.prefix_append _ _
  | beside h =>
    refine .of_layout_eq fun _ => ?_
    rw [layout, h, layout]

/-- **Names and types are never changed**, over any number of steps. -/
theorem continues_run (h : ReflTransGen (Fares issued) r r') : Continues r r' := by
  induction h with
  | refl => exact .refl r
  | tail _ hstep ih => exact ih.trans hstep.continues

/-- The names are distinct, and all items have a property. -/
structure Holds (P : Item → Prop) (r : Resource) : Prop where
  distinct : r.suffixes.Nodup
  items : ∀ i ∈ r.items, P i

/-- What holds of blank items and survives the steps of an item. -/
structure IsLasting (issued : String → TemplateHandle → Prop) (P : Item → Prop) : Prop where
  blank : ∀ item : Item, item.IsBlank → P item
  fares : ∀ item item', Item.Fares issued item item' → P item → P item'

theorem IsLasting.run {P : Item → Prop} (hP : IsLasting issued P) {item item' : Item}
    (h : ReflTransGen (Item.Fares issued) item item') (hitem : P item) : P item' := by
  induction h with
  | refl => exact hitem
  | tail _ hstep ih => exact hP.fares _ _ hstep ih

theorem Holds.fares {P : Item → Prop} (hP : IsLasting issued P) (hr : r.Holds P)
    (h : Fares issued r r') : r'.Holds P := by
  refine ⟨h.continues.distinct hr.distinct, ?_⟩
  -- What lasts is kept along the refit of an item, and a blank item has it.
  cases h with
  | @item suffix f h =>
    intro i hi
    obtain ⟨old, hold, rfl⟩ := List.mem_map.mp hi
    split_ifs with hs
    · exact hP.run (h hr.distinct old hold hs) (hr.items old hold)
    · exact hr.items old hold
  | @add blank item hblank h =>
    intro i hi
    unfold addItem at hi
    split_ifs at hi
    · exact hr.items i hi
    · rcases List.mem_append.mp hi with hold | hnew
      · exact hr.items i hold
      · obtain rfl := List.mem_singleton.mp hnew
        exact hP.run h (hP.blank blank hblank)
  | beside h =>
    rw [h]
    exact hr.items

/-- **What survives the steps of an item holds of all items** over the life of a resource. -/
theorem Holds.fares_run {P : Item → Prop} (hP : IsLasting issued P) (hr : r.Holds P)
    (h : ReflTransGen (Fares issued) r r') : r'.Holds P := by
  induction h with
  | refl => exact hr
  | tail _ hstep ih => exact ih.fares hP hstep

/-! ### What happens to resources -/

theorem fares_setValue {o : SetOutcome} (h : r.setValue suffix v now = .ok (r', o)) :
    ReflTransGen (Fares issued) r r' := by
  obtain ⟨item, item', hitem, hset, hr'⟩ := setValue_cases h
  have hput : Fares issued r (r.modifyItem suffix fun _ => item') := by
    refine .item r fun hr i hi hs => ?_
    rw [eq_of_mem_items hr hitem hi hs]
    exact .single (.set hset)
  rcases hr' with rfl | rfl
  · exact .single hput
  · exact .tail (.single hput) (.beside rfl)

theorem fares_setIfFits (r : Resource) (suffix : String) (v : Value) (now : Instant) :
    ReflTransGen (Fares issued) r (r.setIfFits suffix v now) := by
  unfold setIfFits
  split
  · exact fares_setValue ‹_›
  · exact .refl

theorem fares_traffic {touched : String → Prop} (h : Traffic touched r r') :
    ReflTransGen (Fares issued) r r' := by
  cases h with
  | set _ h => exact fares_setValue h
  | note => exact .single (.beside rfl)
  | told suffix =>
    exact .single (.item r fun _ _ _ _ => .single (.dress rfl fun _ h => .inl h))
  | report suffix v => exact .single (.beside rfl)
  | tick now => exact .single (.beside rfl)

theorem fares_traffic_run {touched : String → Prop} (h : ReflTransGen (Traffic touched) r r') :
    ReflTransGen (Fares issued) r r' := by
  induction h with
  | refl => exact .refl
  | tail _ hstep ih => exact ih.trans (fares_traffic hstep)

theorem fares_fillIdentity (r : Resource) (suffix value : String) (now : Instant) :
    ReflTransGen (Fares issued) r (r.fillIdentity suffix value now) := by
  unfold fillIdentity
  split_ifs
  · exact r.fares_setIfFits _ _ _
  · exact .refl

/-- **Setting up the item of a template** binds it to a handle issued for the name of the
template. -/
theorem fares_setUpItem (r : Resource) (t : ItemTemplate) {handle : Option TemplateHandle}
    (hhandle : ∀ h, handle = some h → issued t.name h) (rows : List Row) (now : Instant) :
    ReflTransGen (Fares issued) r (r.setUpItem t handle rows now) := by
  unfold setUpItem
  split
  · exact .refl
  · refine .tail (.single (.add r (Item.isBlank_new _ _) .refl)) (.item _ fun _ i _ hs => ?_)
    refine .tail (Item.fares_setUp i t _ now) (Item.fares_bind _ t fun h hh => ?_)
    rw [(Item.refit_setUp i t _ now).suffix, hs]
    exact hhandle h hh

theorem fares_setUpItems (r : Resource) {handle? : Nat → Option TemplateHandle}
    (rows : List Row) (now : Instant) (position : Nat) (ts : List ItemTemplate)
    (hhandle : ∀ k t, ts[k]? = some t → ∀ h, handle? (position + k) = some h → issued t.name h) :
    ReflTransGen (Fares issued) r (r.setUpItems handle? rows now position ts) := by
  induction ts generalizing r position with
  | nil => exact .refl
  | cons t ts ih =>
    refine (r.fares_setUpItem t (hhandle 0 t rfl) rows now).trans (ih _ _ fun k u hu h hh => ?_)
    exact hhandle (k + 1) u hu h (by rwa [← Nat.add_assoc, Nat.add_right_comm])

/-! ### New resources -/

/-- The items of the resource have come into being one by one. -/
def IsMade (issued : String → TemplateHandle → Prop) (r : Resource) : Prop :=
  ∃ empty : Resource, empty.items = [] ∧ ReflTransGen (Fares issued) empty r

theorem IsMade.fares (hr : r.IsMade issued) (h : ReflTransGen (Fares issued) r r') :
    r'.IsMade issued := by
  obtain ⟨empty, hempty, hrun⟩ := hr
  exact ⟨empty, hempty, hrun.trans h⟩

theorem IsMade.addItem (hr : r.IsMade issued) {blank item : Item} (hblank : blank.IsBlank)
    (h : ReflTransGen (Item.Fares issued) blank item) : (r.addItem item).IsMade issued :=
  hr.fares (.single (.add r hblank h))

theorem IsMade.addBlank (hr : r.IsMade issued) (suffix : String) (type : DataType) :
    (r.addItem { suffix, type }).IsMade issued :=
  hr.addItem (Item.isBlank_new suffix type) .refl

theorem IsMade.holds {P : Item → Prop} (hP : IsLasting issued P) (hr : r.IsMade issued) :
    r.Holds P := by
  obtain ⟨empty, hempty, hrun⟩ := hr
  refine Holds.fares_run hP ⟨?_, ?_⟩ hrun
  · rw [suffixes, hempty]
    exact List.nodup_nil
  · rw [hempty]
    intro i hi
    cases hi

theorem items_addItem {item : Item} (h : r.hasItem item.suffix = false) :
    (r.addItem item).items = r.items ++ [item] := by
  rw [addItem, h, if_neg Bool.false_ne_true]

/-- **A new resource has made its two items.** -/
theorem isMade_new (kind : ResourceKind) (typeName : String) (u : UniqueId) (created : Instant) :
    (Resource.new kind typeName u created).IsMade issued := by
  unfold Resource.new
  extract_lets blank uid blankType type r
  have huid : ReflTransGen (Item.Fares issued) blank uid := by
    unfold uid
    split_ifs
    · exact .refl
    · exact Item.fares_setIfFits blank _ created
  have htype : ReflTransGen (Item.Fares issued) blankType type :=
    Item.fares_setIfFits blankType _ created
  have hsuffix : uid.suffix = Suffix.uniqueId := (Item.refit_of_fares huid).suffix
  have hsuffix' : type.suffix = Suffix.type := (Item.refit_of_fares htype).suffix
  let empty : Resource := { r with items := [] }
  refine ⟨empty, rfl, .tail (.tail (.single (.add empty (Item.isBlank_new _ _) huid))
    (.add _ (Item.isBlank_new _ _) htype)) (.beside ?_)⟩
  have hfirst : (empty.addItem uid).items = [uid] := items_addItem rfl
  rw [items_addItem, hfirst]
  · rfl
  · rw [hasItem, item?, hfirst, hsuffix']
    simp [hsuffix, Suffix.uniqueId, Suffix.type]

end Resource

end ZigbeeGateway
