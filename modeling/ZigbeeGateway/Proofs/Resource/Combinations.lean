import Mathlib.Data.List.Forall2
import Mathlib.Data.List.Induction
import ZigbeeGateway.Proofs.Resource.View

/-!
# What the view combines

The three axes of an orientation and the two coordinates of a colour are shown in one array each.  Such
a group is shown when all of its items are there and public, each at its position
(`Group.valueAt?_place`); if one is missing, the array is not there.

The items of a group are kept out of the view under their own names in both cases.  So an item of a group
that is not complete is in the view of no category, although it is public: its name shows what the node
has under it, or nothing (`Resource.components_shown_together`).
-/

namespace ZigbeeGateway

/-- What reading all of a list gives. -/
theorem mapM_eq_some_iff {α β : Type*} {f : α → Option β} {l : List α} {ys : List β} :
    l.mapM f = some ys ↔ List.Forall₂ (fun x y => f x = some y) l ys := by
  induction l generalizing ys with
  | nil => simp [eq_comm]
  | cons x l ih =>
    rw [List.mapM_cons]
    constructor
    · intro h
      obtain ⟨y, hy, h⟩ := Option.bind_eq_some_iff.mp h
      obtain ⟨zs, hzs, h⟩ := Option.bind_eq_some_iff.mp h
      obtain rfl := Option.some.inj h
      exact .cons hy (ih.mp hzs)
    · intro h
      cases h with
      | cons hy hys =>
        rw [hy, ih.mpr hys]
        rfl

/-- All of a list are read if each one is. -/
theorem isSome_mapM_iff {α β : Type*} {f : α → Option β} {l : List α} :
    (l.mapM f).isSome = true ↔ ∀ x ∈ l, (f x).isSome = true := by
  induction l with
  | nil => simp
  | cons x l ih =>
    rw [List.forall_mem_cons, ← ih, List.mapM_cons]
    cases f x with
    | none => simp
    | some y => cases l.mapM f <;> simp

namespace View

/-! ### Groups -/

/-- Items that are combined in one member of the view. -/
structure Group where
  combination : String
  /-- The suffixes of the items, in the order of the array. -/
  members : List String
  component : Item → Json

/-- The axes of an orientation. -/
def orientation : Group :=
  { combination := "state/orientation"
    members := [Suffix.orientationX, Suffix.orientationY, Suffix.orientationZ]
    component := fun i => .integer i.number }

/-- The coordinates of a colour. -/
def colour : Group :=
  { combination := "state/xy"
    members := [Suffix.x, Suffix.y]
    component := coordinate }

def groups : List Group :=
  [orientation, colour]

namespace Group

variable {g : Group} {shown : List Item} {fields : Json.Fields}

/-- The shown items of a group, if none is missing. -/
def items? (g : Group) (shown : List Item) : Option (List Item) :=
  g.members.mapM fun s => shown.find? (·.suffix = s)

/-- Combines the items of a group, if all are shown. -/
def place (g : Group) (shown : List Item) (fields : Json.Fields) : Json.Fields :=
  match g.items? shown with
  | some items => View.place fields g.combination (.array (items.map g.component))
  | none => fields

theorem placeOrientation_eq (shown : List Item) (fields : Json.Fields) :
    placeOrientation shown fields = orientation.place shown fields := by
  unfold placeOrientation place items? orientation
  cases hx : shown.find? (·.suffix = Suffix.orientationX) with
  | none => simp [hx]
  | some x =>
    cases hy : shown.find? (·.suffix = Suffix.orientationY) with
    | none => simp [hx, hy]
    | some y => cases hz : shown.find? (·.suffix = Suffix.orientationZ) <;> simp [hx, hy, hz]

theorem placeColour_eq (shown : List Item) (fields : Json.Fields) :
    placeColour shown fields = colour.place shown fields := by
  unfold placeColour place items? colour
  cases hx : shown.find? (·.suffix = Suffix.x) with
  | none => simp [hx]
  | some x => cases hy : shown.find? (·.suffix = Suffix.y) <;> simp [hx, hy]

/-- A group is complete if each of its items is shown. -/
theorem isSome_items?_iff :
    (g.items? shown).isSome = true ↔ ∀ s ∈ g.members, ∃ i ∈ shown, i.suffix = s := by
  simp only [items?, isSome_mapM_iff, List.find?_isSome, decide_eq_true_eq]

/-- In a complete group each item has its position. -/
theorem getElem?_of_items? {items : List Item} (h : g.items? shown = some items)
    (hdistinct : (shown.map Item.suffix).Nodup) {item : Item} (hitem : item ∈ shown) {k : Nat}
    (hk : g.members[k]? = some item.suffix) : items[k]? = some item := by
  have hall := mapM_eq_some_iff.mp h
  obtain ⟨hlength, hget⟩ := List.forall₂_iff_get.mp hall
  obtain ⟨hk, hsuffix⟩ := List.getElem?_eq_some_iff.mp hk
  have hfound := hget k hk (hlength ▸ hk)
  rw [List.get_eq_getElem, List.get_eq_getElem, hsuffix,
    find?_key_of_mem Item.suffix hdistinct hitem] at hfound
  rw [List.getElem?_eq_getElem (hlength ▸ hk), Option.some.inj hfound]

/-! ### The place of a group -/

theorem mem_groups : g ∈ groups ↔ g = orientation ∨ g = colour := by
  simp [groups]

theorem isSplit_combination (hg : g ∈ groups) : Suffix.IsSplit g.combination := by
  unfold Suffix.IsSplit
  rcases mem_groups.mp hg with rfl | rfl <;> decide

theorem isCombination_combination (hg : g ∈ groups) : IsCombination g.combination := by
  rcases mem_groups.mp hg with rfl | rfl
  · exact .inl rfl
  · exact .inr rfl

theorem category_combination (hg : g ∈ groups) : Suffix.category g.combination = "state" := by
  rcases mem_groups.mp hg with rfl | rfl <;> decide

theorem category_of_mem_members (hg : g ∈ groups) {s : String} (hs : s ∈ g.members) :
    Suffix.category s = "state" := by
  revert s
  rcases mem_groups.mp hg with rfl | rfl <;> decide

theorem mem_combined_of_mem_members (hg : g ∈ groups) {s : String} (hs : s ∈ g.members) :
    s ∈ combined := by
  revert s
  rcases mem_groups.mp hg with rfl | rfl <;> decide

/-- A combination is apart from what is apart from its items. -/
theorem isApart_combination (hg : g ∈ groups) {s s' : String} (hs' : Suffix.category s' = "state")
    (h : Suffix.IsApart s s') : Suffix.IsApart s g.combination := by
  have hsame : Suffix.category g.combination = Suffix.category s' :=
    (category_combination hg).trans hs'.symm
  unfold Suffix.IsApart at h ⊢
  rw [hsame]
  refine ⟨h.1, fun htop => ?_⟩
  rw [hs'] at htop
  exact absurd htop (by decide)

/-- A group is found at its place, if it is complete. -/
theorem valueAt?_place_self (h : IsOpen fields g.combination)
    (hnone : valueAt? fields g.combination = none) :
    valueAt? (g.place shown fields) g.combination =
      (g.items? shown).map fun items => .array (items.map g.component) := by
  unfold place
  cases g.items? shown with
  | none => exact hnone
  | some items => exact View.valueAt?_place_self h _

/-- Groups do not get in each other's way. -/
theorem valueAt?_place_of_ne {g' : Group} (hg : g ∈ groups) (hg' : g' ∈ groups)
    (hne : g'.combination ≠ g.combination) :
    valueAt? (g.place shown fields) g'.combination = valueAt? fields g'.combination := by
  unfold place
  cases g.items? shown with
  | none => rfl
  | some items =>
    have hcategory : ∀ {g : Group}, g ∈ groups → Suffix.category g.combination ≠ topLevel := by
      intro g hg
      rw [category_combination hg]
      decide
    exact View.valueAt?_place_of_ne (isSplit_combination hg) (isSplit_combination hg')
      ⟨fun h => absurd h (hcategory hg), fun h => absurd h (hcategory hg')⟩ hne _ _

/-- **Each group is found at its place exactly if it is complete**, if nothing else was put there. -/
theorem valueAt?_placeGroups (hg : g ∈ groups) (h : IsOpen fields g.combination)
    (hnone : valueAt? fields g.combination = none) :
    valueAt? (placeColour shown (placeOrientation shown fields)) g.combination =
      (g.items? shown).map fun items => .array (items.map g.component) := by
  have horientation : orientation ∈ groups := mem_groups.mpr (.inl rfl)
  have hcolour : colour ∈ groups := mem_groups.mpr (.inr rfl)
  rw [placeColour_eq, placeOrientation_eq]
  rcases mem_groups.mp hg with rfl | rfl
  · rw [valueAt?_place_of_ne hcolour horientation (by decide), valueAt?_place_self h hnone]
  · have hopen : IsOpen (orientation.place shown fields) colour.combination := by
      unfold place
      cases orientation.items? shown with
      | none => exact h
      | some items => exact h.place ⟨fun h => absurd h (by decide), fun h => absurd h (by decide)⟩ _
    refine valueAt?_place_self hopen ?_
    rw [valueAt?_place_of_ne horientation hcolour (by decide), hnone]

end Group

/-- A place shows the last item that was put there. -/
theorem valueAt?_placeAll_nil {items : List Item} {s : String} (hs : Suffix.IsSplit s)
    (hitems : ∀ i ∈ items, Suffix.IsSplit i.suffix ∧ Suffix.IsApart i.suffix s) :
    valueAt? (placeAll [] items) s = (items.reverse.find? (·.suffix = s)).map itemJson := by
  -- The item that is placed last wins, so the induction takes the last one off.
  induction items using List.reverseRecOn with
  | nil =>
    unfold valueAt?
    dsimp only
    split_ifs <;> rfl
  | append_singleton items i ih =>
    have hbefore : ∀ j ∈ items, Suffix.IsSplit j.suffix ∧ Suffix.IsApart j.suffix s :=
      fun j hj => hitems j (List.mem_append_left _ hj)
    have hlast := hitems i (List.mem_append_right _ (List.mem_singleton_self i))
    have hplaced : placeAll [] (items ++ [i]) = place (placeAll [] items) i.suffix (itemJson i) := by
      rw [placeAll, List.foldl_append]
      rfl
    rw [hplaced, List.reverse_append, List.reverse_singleton, List.singleton_append, List.find?_cons]
    by_cases hi : i.suffix = s
    · subst hi
      simp only [decide_true, Option.map_some]
      exact valueAt?_place_self (isOpen_placeAll hbefore (.inr (.inl rfl))) _
    · simp only [hi, decide_false]
      exact (valueAt?_place_of_ne hlast.1 hs hlast.2 (Ne.symm hi) _ _).trans (ih hbefore)

end View

/-! ### The groups of a resource -/

namespace Resource

open View Json

variable {r : Resource} {device : Option Device} {category : Option String} {item : Item}
  {g : View.Group}

/-- All items of a group are there and public. -/
def Completes (r : Resource) (g : View.Group) : Prop :=
  ∀ s ∈ g.members, ∃ i ∈ r.items, i.suffix = s ∧ i.isPublic = true

instance (r : Resource) (g : View.Group) : Decidable (r.Completes g) :=
  inferInstanceAs (Decidable (∀ s ∈ g.members, ∃ i ∈ r.items, i.suffix = s ∧ i.isPublic = true))

/-- In the whole view and in that of the state a group lacks no item but the private ones. -/
theorem isShown_of_mem_members (hcategory : ∀ c ∈ category, c = "state") (hg : g ∈ groups)
    (hmember : item.suffix ∈ g.members) : isShown category item = item.isPublic := by
  unfold isShown
  cases category with
  | none => simp
  | some c =>
    obtain rfl := hcategory c rfl
    simp [Group.category_of_mem_members hg hmember]

theorem isSome_items?_iff_completes (hcategory : ∀ c ∈ category, c = "state") (hg : g ∈ groups) :
    (g.items? (r.items.filter (isShown category))).isSome = true ↔ r.Completes g := by
  rw [Group.isSome_items?_iff]
  refine forall₂_congr fun s hs => ⟨?_, ?_⟩
  · rintro ⟨i, hi, rfl⟩
    obtain ⟨hi, hshown⟩ := List.mem_filter.mp hi
    exact ⟨i, hi, rfl, isShown_of_mem_members hcategory hg hs ▸ hshown⟩
  · rintro ⟨i, hi, rfl, hpublic⟩
    exact ⟨i, List.mem_filter.mpr ⟨hi, (isShown_of_mem_members hcategory hg hs).trans hpublic⟩, rfl⟩

/-- The endpoint and the ETag do not hide what is shown of the state. -/
theorem valueAt?_view_of_state {s : String} (hs : Suffix.category s = "state") :
    valueAt? (r.view device category) s = valueAt? (r.gathered device category) s := by
  cases category with
  | some c => rfl
  | none =>
    have htop : Suffix.category s ≠ topLevel := by
      rw [hs]
      decide
    have hplain : ∀ {n : String} {value : Json} (fields : Json.Fields), "state" ≠ n →
        (∀ nested, value ≠ .object nested) →
        valueAt? (Fields.insert n value fields) s = valueAt? fields s := by
      intro n value fields hn hvalue
      rw [valueAt?_insert_plain (fun h => absurd h htop) hvalue, if_neg]
      rintro ⟨-, h⟩
      exact hn (hs.symm.trans h)
    rw [view_none, hplain _ (by decide) (by simp)]
    cases r.uniqueId.endpoint? with
    | none => rfl
    | some endpoint => exact hplain _ (by decide) (by simp)

section ClearNames

variable (h : r.HasClearNames device) (hcategory : ∀ c ∈ category, c = "state")
  (hitem : item ∈ r.items) (hg : g ∈ groups) (hmember : item.suffix ∈ g.members)
include h hitem hg hmember

/-- A combination shows the items of its group, if none is missing, and else nothing. -/
theorem HasClearNames.valueAt?_combination (category : Option String) :
    valueAt? (r.gathered device category) g.combination =
      (g.items? (r.items.filter (isShown category))).map fun items =>
        .array (items.map g.component) := by
  have hviewed : item ∈ r.viewed device := List.mem_append_left _ hitem
  have hplaced : ∀ i ∈ nodeItems category device ++ r.singles category,
      Suffix.IsSplit i.suffix ∧ Suffix.IsApart i.suffix g.combination := by
    intro i hi
    have hi := (mem_viewed_of_placed hi).1
    exact ⟨h.isSplit i hi, Group.isApart_combination hg
      (Group.category_of_mem_members hg hmember) (h.isApart hi hviewed)⟩
  refine Group.valueAt?_placeGroups hg (isOpen_placeAll hplaced (.inr (.inl rfl))) ?_
  rw [valueAt?_placeAll_of_ne (Group.isSplit_combination hg) hplaced []]
  · unfold valueAt?
    dsimp only
    split_ifs <;> rfl
  · -- No item has the name of a combination.
    intro i hi hsame
    exact h.notCombination i (mem_viewed_of_placed hi).1
      (hsame ▸ Group.isCombination_combination hg)

/-- Under the name of an item of a group there is what the node has. -/
theorem HasClearNames.valueAt?_member (category : Option String) :
    valueAt? (r.gathered device category) item.suffix =
      ((nodeItems category device).reverse.find? (·.suffix = item.suffix)).map itemJson := by
  have hviewed : item ∈ r.viewed device := List.mem_append_left _ hitem
  have hsplit := h.isSplit item hviewed
  have hplaced : ∀ i ∈ nodeItems category device ++ r.singles category,
      Suffix.IsSplit i.suffix ∧ Suffix.IsApart i.suffix item.suffix := by
    intro i hi
    have hi := (mem_viewed_of_placed hi).1
    exact ⟨h.isSplit i hi, h.isApart hi hviewed⟩
  -- The items of the resource that are placed are in no group.
  have hsingles : ∀ i ∈ r.singles category, i.suffix ≠ item.suffix := by
    intro i hi hsame
    have hsingle : i.suffix ∉ combined := by simpa using (List.mem_filter.mp hi).2
    exact hsingle (hsame ▸ Group.mem_combined_of_mem_members hg hmember)
  have hsplitAll : placeAll [] (nodeItems category device ++ r.singles category) =
      placeAll (placeAll [] (nodeItems category device)) (r.singles category) :=
    List.foldl_append
  rw [h.valueAt?_gathered hviewed, hsplitAll,
    valueAt?_placeAll_of_ne hsplit (fun i hi => hplaced i (List.mem_append_right _ hi)) _ hsingles,
    valueAt?_placeAll_nil hsplit fun i hi => hplaced i (List.mem_append_left _ hi)]

end ClearNames

/-- **The items of a group are shown together or not at all.**  Take a public item of an orientation or
of a colour, in the whole view or in that of the state, where no names get in each other's way.  If all
items of its group are there and public, their combination is an array in which the item stands at its
position.  If one is not, there is no combination.  In both cases the name of the item itself shows only
what the node has under it: so an item of a group that is not complete is not in the view at all, unless
the node has one of its name. -/
theorem components_shown_together (h : r.HasClearNames device)
    (hcategory : ∀ c ∈ category, c = "state") (hitem : item ∈ r.items)
    (hpublic : item.isPublic = true) (hg : g ∈ groups) (hmember : item.suffix ∈ g.members) :
    (r.Completes g →
      ∃ components, valueAt? (r.view device category) g.combination = some (.array components) ∧
        components.length = g.members.length ∧
        ∀ k : Nat, g.members[k]? = some item.suffix → components[k]? = some (g.component item)) ∧
    (¬ r.Completes g → valueAt? (r.view device category) g.combination = none) ∧
    valueAt? (r.view device category) item.suffix =
      ((nodeItems category device).reverse.find? (·.suffix = item.suffix)).map itemJson := by
  have hstate := Group.category_of_mem_members hg hmember
  -- The combination stands where its own suffix would stand, if it is complete.
  have hcombination : valueAt? (r.view device category) g.combination = _ :=
    (valueAt?_view_of_state (Group.category_combination hg)).trans
      (h.valueAt?_combination hitem hg hmember category)
  rw [hcombination, ← isSome_items?_iff_completes hcategory hg]
  refine ⟨fun hcomplete => ?_, fun hmissing => ?_, ?_⟩
  · obtain ⟨items, hitems⟩ := Option.isSome_iff_exists.mp hcomplete
    refine ⟨items.map g.component, by rw [hitems]; rfl, ?_, fun k hk => ?_⟩
    · rw [List.length_map]
      exact (mapM_eq_some_iff.mp hitems).length_eq.symm
    · have hshown : item ∈ r.items.filter (isShown category) :=
        List.mem_filter.mpr ⟨hitem, (isShown_of_mem_members hcategory hg hmember).trans hpublic⟩
      have hdistinct : ((r.items.filter (isShown category)).map Item.suffix).Nodup :=
        h.distinct.sublist (List.filter_sublist.map _)
      rw [List.getElem?_map, Group.getElem?_of_items? hitems hdistinct hshown hk, Option.map_some]
  · rw [Option.not_isSome_iff_eq_none.mp hmissing, Option.map_none]
  · exact (valueAt?_view_of_state hstate).trans (h.valueAt?_member hitem hg hmember category)

/-- A resource with an orientation and half a colour shows the axes together, in their order, and
nothing of the colour. -/
theorem axes_shown_without_half_colour :
    let vertical : Item := { suffix := Suffix.orientationY, type := .int16, value := some (.int (-2)) }
    let red : Item := { suffix := Suffix.x, type := .uint16, value := some (.uint 65535) }
    let r := sensorOf [vertical, red,
      { suffix := Suffix.orientationX, type := .int16, value := some (.int 1) },
      { suffix := Suffix.orientationZ, type := .int16, value := some (.int 89) },
      { suffix := Suffix.y, type := .uint16, value := some (.uint 100), isPublic := false }]
    (∃ components, valueAt? (r.view none (some "state")) "state/orientation" =
        some (.array components) ∧ components.length = 3 ∧ components[1]? = some (.integer (-2))) ∧
      valueAt? (r.view none none) "state/xy" = none ∧ valueAt? (r.view none none) Suffix.x = none := by
  intro vertical red r
  have hclear : r.HasClearNames none := by decide +kernel
  have hstate : ∀ c ∈ some "state", c = "state" := by simp
  have hwhole : ∀ c ∈ (none : Option String), c = "state" := by simp
  have hvertical : vertical ∈ r.items := by simp [r, sensorOf]
  have hred : red ∈ r.items := by simp [r, sensorOf]
  obtain ⟨hshown, -, -⟩ := components_shown_together hclear hstate hvertical rfl (g := orientation)
    (by simp [groups]) (by decide +kernel)
  obtain ⟨-, hmissing, hname⟩ := components_shown_together hclear hwhole hred rfl (g := colour)
    (by simp [groups]) (by decide +kernel)
  obtain ⟨components, hcomponents, hlength, hposition⟩ := hshown (by decide +kernel)
  exact ⟨⟨components, hcomponents, hlength, hposition 1 rfl⟩, hmissing (by decide +kernel), hname⟩

/-- A resource with one public coordinate of a colour: no view has the item, neither under its name nor
in a combination. -/
theorem lone_coordinate_vanishes :
    let r := sensorOf [{ suffix := Suffix.x, type := .uint16, value := some (.uint 65535) }]
    r.HasClearNames none ∧ (∀ i ∈ r.items, i.isPublic = true ∧ i.suffix ∈ colour.members) ∧
      ¬ r.Completes colour ∧
      ∀ category ∈ [none, some "state"],
        (valueAt? (r.view none category) Suffix.x).isNone = true ∧
          (valueAt? (r.view none category) "state/xy").isNone = true := by
  decide +kernel

end Resource

end ZigbeeGateway
