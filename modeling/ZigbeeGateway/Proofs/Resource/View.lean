import ZigbeeGateway.Proofs.Resource.Tags
import ZigbeeGateway.Resource.View

/-!
# What the view shows

A view is filled item by item: first those of the node, then those of the resource, then what is
combined, and then the endpoint and the ETag.  If no two places get in each other's way
(`Suffix.IsApart`), a value put at one place is found there (`View.valueAt?_place_self`) and all other
places stay as they are (`View.valueAt?_place_of_ne`), so at the end a place shows the last item that
was put there (`View.valueAt?_placeAll`).

From this follows what the view shows of a resource and its node (`Resource.view_shows_public_items`).
-/

namespace ZigbeeGateway

/-! ### Fields -/

namespace Json.Fields

theorem find?_cons (m : String) (v : Json) (rest : Fields) (n : String) :
    find? ((m, v) :: rest) n = if n = m then some v else find? rest n := by
  unfold find?
  rw [List.lookup_cons]
  by_cases h : n = m
  · rw [if_pos h, beq_iff_eq.mpr h]
  · rw [if_neg h, beq_eq_false_iff_ne.mpr h]

/-- A field that is set is found, and all others stay as they are. -/
theorem find?_insert (name : String) (value : Json) (fields : Fields) (n : String) :
    find? (insert name value fields) n = if n = name then some value else find? fields n := by
  induction fields with
  | nil => rw [insert, find?_cons]
  | cons field rest ih =>
    obtain ⟨m, v⟩ := field
    rw [insert, find?_cons]
    by_cases hm : name = m
    · rw [if_pos hm, find?_cons, ← hm]
      split_ifs <;> rfl
    · rw [if_neg hm]
      by_cases hlt : name < m
      · rw [if_pos hlt, find?_cons, find?_cons]
      · rw [if_neg hlt, find?_cons, ih]
        split_ifs with hn hname
        · exact absurd (hname.symm.trans hn) hm
        · rfl
        · rfl
        · rfl

end Json.Fields

/-! ### Places -/

namespace Suffix

/-- A category and a key make a suffix. -/
def IsSplit (s : String) : Prop :=
  '/' ∈ s.toList

theorem IsSplit.exists_dropWhile {s : String} (hs : IsSplit s) :
    ∃ rest, s.toList.dropWhile (· ≠ '/') = '/' :: rest := by
  unfold IsSplit at hs
  generalize s.toList = l at hs
  induction l with
  | nil => cases hs
  | cons c l ih =>
    by_cases hc : c = '/'
    · exact ⟨l, by simp [hc]⟩
    · obtain ⟨rest, hrest⟩ := ih ((List.mem_cons.mp hs).resolve_left (Ne.symm hc))
      exact ⟨rest, by rw [List.dropWhile_cons, if_pos (by simpa using hc), hrest]⟩

/-- A suffix is its category, a slash and its key. -/
theorem IsSplit.toList_eq {s : String} (hs : IsSplit s) :
    s.toList = (category s).toList ++ '/' :: (key s).toList := by
  obtain ⟨rest, hrest⟩ := hs.exists_dropWhile
  unfold category key
  rw [hrest, String.toList_ofList, String.toList_ofList, ← hrest, List.takeWhile_append_dropWhile]

theorem IsSplit.eq_of_parts {s s' : String} (hs : IsSplit s) (hs' : IsSplit s')
    (hcategory : category s' = category s) (hkey : key s' = key s) : s' = s := by
  rw [← String.toList_inj, hs.toList_eq, hs'.toList_eq, hcategory, hkey]

/-- A member of the outer object and a category have different names. -/
def IsApart (s s' : String) : Prop :=
  (category s = View.topLevel → key s ≠ category s') ∧
    (category s' = View.topLevel → key s' ≠ category s)

end Suffix

namespace View

open Json

variable {fields : Json.Fields} {s s' : String} {value : Json}

/-- No value stands where the category of a suffix has its object. -/
def IsOpen (fields : Json.Fields) (s : String) : Prop :=
  Suffix.category s = topLevel ∨
    Fields.find? fields (Suffix.category s) = none ∨
    ∃ nested, Fields.find? fields (Suffix.category s) = some (.object nested)

/-- What becomes of the object of a category. -/
theorem find?_place_category (htop : Suffix.category s ≠ topLevel) (fields : Json.Fields)
    (value : Json) :
    Fields.find? (place fields s value) (Suffix.category s) =
      match Fields.find? fields (Suffix.category s) with
      | none => some (.object [(Suffix.key s, value)])
      | some (.object nested) => some (.object (Fields.insert (Suffix.key s) value nested))
      | some other => some other := by
  unfold place
  dsimp only
  rw [if_neg htop]
  cases h : Fields.find? fields (Suffix.category s) with
  | none => exact (Fields.find?_insert _ _ _ _).trans (if_pos rfl)
  | some found =>
    cases found with
    | object nested => exact (Fields.find?_insert _ _ _ _).trans (if_pos rfl)
    | _ => exact h

/-- What is put at an open place is found there. -/
theorem valueAt?_place_self (h : IsOpen fields s) (value : Json) :
    valueAt? (place fields s value) s = some value := by
  unfold valueAt?
  dsimp only
  by_cases htop : Suffix.category s = topLevel
  · unfold place
    dsimp only
    rw [if_pos htop, if_pos htop, Fields.find?_insert, if_pos rfl]
  · rw [if_neg htop, find?_place_category htop]
    rcases h with h | h | ⟨nested, h⟩
    · exact absurd h htop
    · rw [h]
      exact (Fields.find?_cons _ _ _ _).trans (if_pos rfl)
    · rw [h]
      exact (Fields.find?_insert _ _ _ _).trans (if_pos rfl)

/-- Which members of the outer object a value may change. -/
theorem find?_place_of_ne (fields : Json.Fields) (value : Json) {n : String}
    (h : if Suffix.category s = topLevel then n ≠ Suffix.key s else n ≠ Suffix.category s) :
    Fields.find? (place fields s value) n = Fields.find? fields n := by
  unfold place
  dsimp only
  split_ifs at h ⊢
  · rw [Fields.find?_insert, if_neg h]
  · split
    · rw [Fields.find?_insert, if_neg h]
    · rw [Fields.find?_insert, if_neg h]
    · rfl

/-- **All other places stay as they are**, if they are apart. -/
theorem valueAt?_place_of_ne (hs : Suffix.IsSplit s) (hs' : Suffix.IsSplit s')
    (hapart : Suffix.IsApart s s') (hne : s' ≠ s) (fields : Json.Fields) (value : Json) :
    valueAt? (place fields s value) s' = valueAt? fields s' := by
  -- Only values of one category share an object, and there their keys are different.
  by_cases htop' : Suffix.category s' = topLevel
  · unfold valueAt?
    dsimp only
    rw [if_pos htop', if_pos htop', find?_place_of_ne]
    split_ifs with htop
    · exact fun hkey => hne (hs.eq_of_parts hs' (htop'.trans htop.symm) hkey)
    · exact hapart.2 htop'
  · by_cases hcategory : Suffix.category s' = Suffix.category s
    · have hkey : Suffix.key s' ≠ Suffix.key s := fun h => hne (hs.eq_of_parts hs' hcategory h)
      unfold valueAt?
      dsimp only
      rw [if_neg htop', if_neg htop', hcategory, find?_place_category (hcategory ▸ htop')]
      cases Fields.find? fields (Suffix.category s) with
      | none => exact (Fields.find?_cons _ _ _ _).trans (if_neg hkey)
      | some found =>
        cases found with
        | object nested => exact (Fields.find?_insert _ _ _ _).trans (if_neg hkey)
        | _ => rfl
    · unfold valueAt?
      dsimp only
      rw [if_neg htop', if_neg htop', find?_place_of_ne]
      split_ifs with htop
      · exact (hapart.1 htop).symm
      · exact hcategory

/-- Places stay open, if they are apart from what is put. -/
theorem IsOpen.place (h : IsOpen fields s') (hapart : Suffix.IsApart s s') (value : Json) :
    IsOpen (place fields s value) s' := by
  rcases h with htop | h
  · exact .inl htop
  · refine .inr ?_
    by_cases hsame : Suffix.category s ≠ topLevel ∧ Suffix.category s' = Suffix.category s
    · -- The category gets an object, or keeps the one it has.
      obtain ⟨htop, hcategory⟩ := hsame
      rw [hcategory] at h ⊢
      rw [find?_place_category htop]
      rcases h with h | ⟨nested, h⟩
      · rw [h]
        exact .inr ⟨_, rfl⟩
      · rw [h]
        exact .inr ⟨_, rfl⟩
    · rw [find?_place_of_ne]
      · exact h
      · split_ifs with htop
        · exact (hapart.1 htop).symm
        · exact fun hcategory => hsame ⟨htop, hcategory⟩

/-! ### Many places -/

/-- Puts items at their places, one after the other. -/
def placeAll (fields : Json.Fields) (items : List Item) : Json.Fields :=
  items.foldl (fun fields i => place fields i.suffix (itemJson i)) fields

section PlaceAll

variable {items : List Item} (hs : Suffix.IsSplit s)
  (hitems : ∀ i ∈ items, Suffix.IsSplit i.suffix ∧ Suffix.IsApart i.suffix s)
include hitems

theorem isOpen_placeAll (h : IsOpen fields s) : IsOpen (placeAll fields items) s := by
  induction items generalizing fields with
  | nil => exact h
  | cons i items ih =>
    exact ih (fun j hj => hitems j (List.mem_cons_of_mem _ hj))
      (h.place (hitems i List.mem_cons_self).2 _)

include hs

/-- A place shows what it did if no item is put there. -/
theorem valueAt?_placeAll_of_ne (fields : Json.Fields) (hne : ∀ i ∈ items, i.suffix ≠ s) :
    valueAt? (placeAll fields items) s = valueAt? fields s := by
  induction items generalizing fields with
  | nil => rfl
  | cons i items ih =>
    obtain ⟨hi, hapart⟩ := hitems i List.mem_cons_self
    refine (ih (fun j hj => hitems j (List.mem_cons_of_mem _ hj)) _
      fun j hj => hne j (List.mem_cons_of_mem _ hj)).trans ?_
    exact valueAt?_place_of_ne hi hs hapart (hne i List.mem_cons_self).symm fields _

end PlaceAll

/-- **The last item wins**: a place shows the last one that is put there. -/
theorem valueAt?_placeAll {before after : List Item} {item : Item}
    (hitems : ∀ i ∈ before ++ item :: after,
      Suffix.IsSplit i.suffix ∧ Suffix.IsApart i.suffix item.suffix)
    (hlast : ∀ i ∈ after, i.suffix ≠ item.suffix) (h : IsOpen fields item.suffix) :
    valueAt? (placeAll fields (before ++ item :: after)) item.suffix = some (itemJson item) := by
  have hopen : IsOpen (placeAll fields before) item.suffix :=
    isOpen_placeAll (fun i hi => hitems i (List.mem_append_left _ hi)) h
  have hself := hitems item (List.mem_append_right _ List.mem_cons_self)
  unfold placeAll at hopen ⊢
  rw [List.foldl_append, List.foldl_cons]
  refine (valueAt?_placeAll_of_ne hself.1
    (fun i hi => hitems i (List.mem_append_right _ (List.mem_cons_of_mem _ hi))) _ hlast).trans ?_
  exact valueAt?_place_self hopen _

/-- A member of the outer object that no item has the name of is not changed. -/
theorem find?_placeAll_of_ne {items : List Item} {n : String} (fields : Json.Fields)
    (h : ∀ i ∈ items, if Suffix.category i.suffix = topLevel then n ≠ Suffix.key i.suffix
      else n ≠ Suffix.category i.suffix) :
    Fields.find? (placeAll fields items) n = Fields.find? fields n := by
  induction items generalizing fields with
  | nil => rfl
  | cons i items ih =>
    exact (ih _ fun j hj => h j (List.mem_cons_of_mem _ hj)).trans
      (find?_place_of_ne fields _ (h i List.mem_cons_self))

/-! ### What is combined -/

/-- The members that combine others. -/
def IsCombination (s : String) : Prop :=
  s = "state/orientation" ∨ s = "state/xy"

/-- A combination is put at its place if the items that it combines are shown, which are of the same
category. -/
inductive Combines (shown : List Item) (fields : Json.Fields) : Json.Fields → Prop
  | none : Combines shown fields fields
  | some {s : String} (hs : IsCombination s) (value : Json) {item : Item} (hitem : item ∈ shown)
      (hcategory : Suffix.category item.suffix = Suffix.category s) :
      Combines shown fields (place fields s value)

theorem combines_placeOrientation (shown : List Item) (fields : Json.Fields) :
    Combines shown fields (placeOrientation shown fields) := by
  unfold placeOrientation
  dsimp only
  split
  · rename_i x y z hx _ _
    have hsuffix : x.suffix = Suffix.orientationX := by simpa using List.find?_some hx
    exact .some (.inl rfl) _ (List.mem_of_find?_eq_some hx) (by rw [hsuffix]; decide)
  · exact .none

theorem combines_placeColour (shown : List Item) (fields : Json.Fields) :
    Combines shown fields (placeColour shown fields) := by
  unfold placeColour
  dsimp only
  split
  · rename_i x y hx _
    have hsuffix : x.suffix = Suffix.x := by simpa using List.find?_some hx
    exact .some (.inr rfl) _ (List.mem_of_find?_eq_some hx) (by rw [hsuffix]; decide)
  · exact .none

/-- Combinations change no place that is apart from the items that they combine. -/
theorem Combines.valueAt?_eq {shown : List Item} {fields' : Json.Fields}
    (h : Combines shown fields fields') (hs : Suffix.IsSplit s) (hne : ¬ IsCombination s)
    (hapart : ∀ i ∈ shown, Suffix.IsApart i.suffix s) :
    valueAt? fields' s = valueAt? fields s := by
  cases h with
  | none => rfl
  | @some c hc value item hitem hcategory =>
    have hsplit : Suffix.IsSplit c := by
      unfold Suffix.IsSplit
      rcases hc with rfl | rfl <;> decide
    have hnested : Suffix.category c ≠ topLevel := by
      rcases hc with rfl | rfl <;> decide
    refine valueAt?_place_of_ne hsplit hs ⟨fun h => absurd h hnested, fun h => ?_⟩
      (fun h => hne (h ▸ hc)) fields value
    rw [← hcategory]
    exact (hapart item hitem).2 h

/-- Combinations make no new member of the outer object. -/
theorem Combines.find?_eq {shown : List Item} {fields' : Json.Fields} {n : String}
    (h : Combines shown fields fields') (hn : ∀ i ∈ shown, Suffix.category i.suffix ≠ n) :
    Fields.find? fields' n = Fields.find? fields n := by
  cases h with
  | none => rfl
  | @some c hc value item hitem hcategory =>
    have hnested : Suffix.category c ≠ topLevel := by
      rcases hc with rfl | rfl <;> decide
    refine find?_place_of_ne fields value ?_
    rw [if_neg hnested, ← hcategory]
    exact (hn item hitem).symm

/-- A plain member of the outer object hides the items of the category of its name, and no other
ones. -/
theorem valueAt?_insert_plain {n : String} (hkey : Suffix.category s = topLevel → Suffix.key s ≠ n)
    (hplain : ∀ nested, value ≠ .object nested) (fields : Json.Fields) :
    valueAt? (Fields.insert n value fields) s =
      if Suffix.category s ≠ topLevel ∧ Suffix.category s = n then none else valueAt? fields s := by
  unfold valueAt?
  dsimp only
  rw [Fields.find?_insert, Fields.find?_insert]
  by_cases htop : Suffix.category s = topLevel
  · rw [if_pos htop, if_neg (hkey htop), if_neg fun h => h.1 htop, if_pos htop]
  · rw [if_neg htop]
    by_cases hn : Suffix.category s = n
    · rw [if_pos hn, if_pos ⟨htop, hn⟩]
      split
      · exact absurd (Option.some.inj ‹_›) (hplain _)
      · rfl
    · rw [if_neg hn, if_neg fun h => hn h.2, if_neg htop]

/-- The public value of an item is found at its place: its value, or a null without one, except that a
time of last update says so. -/
def Shows (fields : Json.Fields) (item : Item) : Prop :=
  (∀ v, item.value = some v → valueAt? fields item.suffix = some v.toJson) ∧
    (item.value = none → valueAt? fields item.suffix =
      some (if item.suffix = Suffix.lastUpdated then .string "none" else .null))

theorem shows_of_valueAt? {item : Item}
    (h : valueAt? fields item.suffix = some (itemJson item)) : Shows fields item := by
  unfold itemJson at h
  refine ⟨fun v hv => ?_, fun hv => ?_⟩
  · rw [h, hv]
  · rw [h, hv]

end View

/-! ### The view of a resource -/

namespace Resource

open View Json

variable {r : Resource} {device : Option Device} {category : Option String} {item : Item}

/-- The items of a resource and of its node, shown or not. -/
def viewed (r : Resource) (device : Option Device) : List Item :=
  r.items ++ (device.map (·.node.items)).getD []

/-- The names of the items do not get in each other's way, nor in that of the other members of the
view. -/
structure HasClearNames (r : Resource) (device : Option Device) : Prop where
  distinct : r.suffixes.Nodup
  isSplit : ∀ i ∈ r.viewed device, Suffix.IsSplit i.suffix
  notReserved : ∀ i ∈ r.viewed device, Suffix.category i.suffix = topLevel →
    Suffix.key i.suffix ≠ "ep" ∧ Suffix.key i.suffix ≠ "etag"
  apart : ∀ i ∈ r.viewed device, ∀ j ∈ r.viewed device, Suffix.category i.suffix = topLevel →
    Suffix.key i.suffix ≠ Suffix.category j.suffix
  notCombination : ∀ i ∈ r.viewed device, ¬ IsCombination i.suffix

/-- The items of the resource that have a place of their own. -/
def singles (r : Resource) (category : Option String) : List Item :=
  (r.items.filter (isShown category)).filter fun i => !combined.contains i.suffix

/-- The view without the endpoint and the ETag. -/
def gathered (r : Resource) (device : Option Device) (category : Option String) : Json.Fields :=
  let shown := r.items.filter (isShown category)
  placeColour shown (placeOrientation shown
    (placeAll [] (nodeItems category device ++ r.singles category)))

theorem view_some (r : Resource) (device : Option Device) (c : String) :
    r.view device (some c) = r.gathered device (some c) := rfl

theorem view_none (r : Resource) (device : Option Device) :
    r.view device none = Fields.insert "etag" (.string r.etag)
      (match r.uniqueId.endpoint? with
      | some endpoint => Fields.insert "ep" (.integer endpoint.toNat) (r.gathered device none)
      | none => r.gathered device none) := rfl

theorem mem_viewed_of_placed (h : item ∈ nodeItems category device ++ r.singles category) :
    item ∈ r.viewed device ∧ isShown category item = true := by
  rcases List.mem_append.mp h with h | h
  · cases device with
    | none => cases h
    | some d =>
      have hmem := List.mem_filter.mp h
      simp only [Bool.and_eq_true] at hmem
      exact ⟨List.mem_append_right _ hmem.1, hmem.2.1.1⟩
  · have hmem := List.mem_filter.mp (List.mem_filter.mp h).1
    exact ⟨List.mem_append_left _ hmem.1, hmem.2⟩

section ClearNames

variable (h : r.HasClearNames device)
include h

theorem HasClearNames.isApart {i j : Item} (hi : i ∈ r.viewed device) (hj : j ∈ r.viewed device) :
    Suffix.IsApart i.suffix j.suffix :=
  ⟨h.apart i hi j hj, h.apart j hj i hi⟩

/-- Combinations are no items. -/
theorem HasClearNames.valueAt?_gathered (hitem : item ∈ r.viewed device) :
    valueAt? (r.gathered device category) item.suffix =
      valueAt? (placeAll [] (nodeItems category device ++ r.singles category)) item.suffix := by
  have hapart : ∀ i ∈ r.items.filter (isShown category), Suffix.IsApart i.suffix item.suffix :=
    fun i hi => h.isApart (List.mem_append_left _ (List.mem_filter.mp hi).1) hitem
  have hsplit := h.isSplit item hitem
  have hplain := h.notCombination item hitem
  exact ((combines_placeColour _ _).valueAt?_eq hsplit hplain hapart).trans
    ((combines_placeOrientation _ _).valueAt?_eq hsplit hplain hapart)

/-- **A shown item of the resource is found**, also if the node has one of its name. -/
theorem HasClearNames.valueAt?_gathered_shown (hitem : item ∈ r.items)
    (hshown : isShown category item = true) (hsingle : item.suffix ∉ combined) :
    valueAt? (r.gathered device category) item.suffix = some (itemJson item) := by
  have hviewed : item ∈ r.viewed device := List.mem_append_left _ hitem
  rw [h.valueAt?_gathered hviewed]
  have hmem : item ∈ r.singles category :=
    List.mem_filter.mpr ⟨List.mem_filter.mpr ⟨hitem, hshown⟩, by simpa using hsingle⟩
  have hnodup : ((r.singles category).map Item.suffix).Nodup :=
    h.distinct.sublist (((List.filter_sublist).trans List.filter_sublist).map _)
  obtain ⟨before, after, hsplit⟩ := List.append_of_mem hmem
  have hplaced : ∀ i ∈ nodeItems category device ++ r.singles category, i ∈ r.viewed device :=
    fun i hi => (mem_viewed_of_placed hi).1
  rw [hsplit, ← List.append_assoc] at hplaced ⊢
  refine valueAt?_placeAll (fun i hi => ?_) (fun i hi hsame => ?_) (.inr (.inl rfl))
  · exact ⟨h.isSplit i (hplaced i hi), h.isApart (hplaced i hi) hviewed⟩
  · -- The suffixes of the resource are distinct.
    rw [hsplit, List.map_append, List.map_cons] at hnodup
    have hnotMem := (List.nodup_cons.mp (List.nodup_append.mp hnodup).2.1).1
    exact hnotMem (hsame ▸ List.mem_map_of_mem hi)

/-- **An item that nothing with its name is shown for is not found.** -/
theorem HasClearNames.valueAt?_gathered_of_ne (hitem : item ∈ r.viewed device)
    (hne : ∀ i ∈ nodeItems category device ++ r.singles category, i.suffix ≠ item.suffix) :
    valueAt? (r.gathered device category) item.suffix = none := by
  rw [h.valueAt?_gathered hitem, valueAt?_placeAll_of_ne (h.isSplit item hitem) (fun i hi => ?_) _ hne]
  · unfold valueAt?
    dsimp only
    split_ifs <;> rfl
  · have hplaced := (mem_viewed_of_placed hi).1
    exact ⟨h.isSplit i hplaced, h.isApart hplaced hitem⟩

/-- The view of one category has neither the endpoint nor the ETag, unless that is the category. -/
theorem HasClearNames.find?_gathered_reserved {c n : String} (hn : n = "ep" ∨ n = "etag")
    (hc : c ≠ n) : Fields.find? (r.gathered device (some c)) n = none := by
  have hcategory : ∀ i : Item, isShown (some c) i = true → Suffix.category i.suffix = c := by
    intro i hi
    simpa using (Bool.and_eq_true_iff.mp hi).2
  have hshown : ∀ i ∈ r.items.filter (isShown (some c)), Suffix.category i.suffix ≠ n := fun i hi =>
    (hcategory i (List.mem_filter.mp hi).2).symm ▸ hc
  refine ((combines_placeColour _ _).find?_eq hshown).trans
    (((combines_placeOrientation _ _).find?_eq hshown).trans ?_)
  refine (find?_placeAll_of_ne [] fun i hi => ?_).trans rfl
  obtain ⟨hviewed, hi⟩ := mem_viewed_of_placed hi
  split_ifs with htop
  · rcases hn with rfl | rfl
    · exact (h.notReserved i hviewed htop).1.symm
    · exact (h.notReserved i hviewed htop).2.symm
  · rw [hcategory i hi]
    exact hc.symm

/-- The endpoint and the ETag hide the items of categories of their names, and no other ones. -/
theorem HasClearNames.valueAt?_view_none (hitem : item ∈ r.viewed device) :
    valueAt? (r.view device none) item.suffix =
      if Suffix.category item.suffix = "etag" ∨
          Suffix.category item.suffix = "ep" ∧ r.uniqueId.endpoint?.isSome = true then none
      else valueAt? (r.gathered device none) item.suffix := by
  have hreserved := h.notReserved item hitem
  -- Neither name is the one of the outer object.
  have hnested : ∀ n, n = "ep" ∨ n = "etag" →
      (Suffix.category item.suffix ≠ topLevel ∧ Suffix.category item.suffix = n ↔
        Suffix.category item.suffix = n) := by
    rintro n hn
    refine ⟨And.right, fun h => ⟨?_, h⟩⟩
    rw [h]
    rcases hn with rfl | rfl <;> decide
  rw [view_none, valueAt?_insert_plain (fun htop => (hreserved htop).2) (fun _ => by simp)]
  simp only [hnested _ (.inr rfl)]
  cases r.uniqueId.endpoint? with
  | none =>
    simp only [Option.isSome_none, Bool.false_eq_true, and_false, or_false]
  | some endpoint =>
    dsimp only
    rw [valueAt?_insert_plain (fun htop => (hreserved htop).1) (fun _ => by simp)]
    simp only [hnested _ (.inl rfl), Option.isSome_some, and_true]
    by_cases hetag : Suffix.category item.suffix = "etag"
    · rw [if_pos hetag, if_pos (.inl hetag)]
    · simp only [hetag, false_or, if_false]

/-- **A private item is found** only where the node has a public one of its name. -/
theorem HasClearNames.exists_node_item (hitem : item ∈ r.items) (hprivate : item.isPublic = false)
    (hfound : (valueAt? (r.gathered device category) item.suffix).isSome = true) :
    ∃ d, device = some d ∧ ∃ i ∈ d.node.items, i.isPublic = true ∧ i.suffix = item.suffix := by
  by_contra hnone
  rw [h.valueAt?_gathered_of_ne (List.mem_append_left _ hitem) fun i hi hsame => ?_] at hfound
  · cases hfound
  · rcases List.mem_append.mp hi with hi | hi
    · cases device with
      | none => cases hi
      | some d =>
        have hmem := List.mem_filter.mp hi
        simp only [isShown, Bool.and_eq_true] at hmem
        exact hnone ⟨d, rfl, i, hmem.1, hmem.2.1.1.1, hsame⟩
    · -- The resource has one item of the name, which is private.
      have hmem := List.mem_filter.mp (List.mem_filter.mp hi).1
      obtain rfl := List.inj_on_of_nodup_map h.distinct hmem.1 hitem hsame
      have hpublic := (Bool.and_eq_true_iff.mp hmem.2).1
      rw [hprivate] at hpublic
      cases hpublic

end ClearNames

/-- **What the view shows.**  If the names of the items do not get in each other's way, the whole view
shows every public item of the resource that has a place of its own, also where the node has one of its
name; only items of the category `etag` are not found, nor those of the category `ep` if there is an
endpoint.  The view of one category shows all such items of that category and none of another one, and
neither endpoint nor ETag.  A private item is found only where the node has a public one of its name. -/
theorem view_shows_public_items (h : r.HasClearNames device) :
    (∀ item ∈ r.items, item.isPublic = true → item.suffix ∉ combined →
      Suffix.category item.suffix ≠ "etag" →
      (Suffix.category item.suffix = "ep" → r.uniqueId.endpoint? = none) →
      Shows (r.view device none) item) ∧
    (∀ c,
      (∀ item ∈ r.items, item.isPublic = true → item.suffix ∉ combined →
        Suffix.category item.suffix = c → Shows (r.view device (some c)) item) ∧
      (∀ item ∈ r.viewed device, Suffix.category item.suffix ≠ c →
        valueAt? (r.view device (some c)) item.suffix = none) ∧
      ∀ n, n = "ep" ∨ n = "etag" → c ≠ n → Fields.find? (r.view device (some c)) n = none) ∧
    ∀ category, ∀ item ∈ r.items, item.isPublic = false →
      (valueAt? (r.view device category) item.suffix).isSome = true →
      ∃ d, device = some d ∧ ∃ i ∈ d.node.items, i.isPublic = true ∧ i.suffix = item.suffix := by
  refine ⟨fun item hitem hpublic hsingle hetag hep => ?_, fun c => ⟨?_, ?_, ?_⟩, ?_⟩
  · have hshown : isShown none item = true := by rw [isShown, hpublic]; rfl
    apply shows_of_valueAt?
    rw [h.valueAt?_view_none (List.mem_append_left _ hitem), if_neg,
      h.valueAt?_gathered_shown hitem hshown hsingle]
    rintro (hcategory | ⟨hcategory, hendpoint⟩)
    · exact hetag hcategory
    · rw [hep hcategory] at hendpoint
      cases hendpoint
  · intro item hitem hpublic hsingle hcategory
    have hshown : isShown (some c) item = true := by simp [isShown, hpublic, hcategory]
    rw [view_some]
    exact shows_of_valueAt? (h.valueAt?_gathered_shown hitem hshown hsingle)
  · intro item hitem hcategory
    rw [view_some]
    refine h.valueAt?_gathered_of_ne hitem fun i hi hsame => ?_
    -- Whatever is placed is of the category.
    have hi := (Bool.and_eq_true_iff.mp (mem_viewed_of_placed hi).2).2
    rw [hsame] at hi
    exact hcategory (by simpa using hi)
  · intro n hn hc
    rw [view_some]
    exact h.find?_gathered_reserved hn hc
  · intro category item hitem hprivate hfound
    cases category with
    | some c => exact h.exists_node_item hitem hprivate hfound
    | none =>
      rw [h.valueAt?_view_none (List.mem_append_left _ hitem)] at hfound
      split_ifs at hfound
      · cases hfound
      · exact h.exists_node_item hitem hprivate hfound

instance (r : Resource) (device : Option Device) : Decidable (r.HasClearNames device) :=
  decidable_of_iff
    (r.suffixes.Nodup ∧
      (∀ i ∈ r.viewed device, '/' ∈ i.suffix.toList ∧
        (Suffix.category i.suffix = topLevel →
          Suffix.key i.suffix ≠ "ep" ∧ Suffix.key i.suffix ≠ "etag" ∧
            ∀ j ∈ r.viewed device, Suffix.key i.suffix ≠ Suffix.category j.suffix) ∧
        i.suffix ≠ "state/orientation" ∧ i.suffix ≠ "state/xy"))
    ⟨fun ⟨hdistinct, h⟩ =>
      { distinct := hdistinct
        isSplit := fun i hi => (h i hi).1
        notReserved := fun i hi htop => ⟨((h i hi).2.1 htop).1, ((h i hi).2.1 htop).2.1⟩
        apart := fun i hi j hj htop => ((h i hi).2.1 htop).2.2 j hj
        notCombination := fun i hi hc => hc.elim (h i hi).2.2.1 (h i hi).2.2.2 },
      fun h => ⟨h.distinct, fun i hi => ⟨h.isSplit i hi,
        fun htop => ⟨(h.notReserved i hi htop).1, (h.notReserved i hi htop).2,
          fun j hj => h.apart i hi j hj htop⟩,
        fun hc => h.notCombination i hi (.inl hc), fun hc => h.notCombination i hi (.inr hc)⟩⟩⟩

/-- A sensor with items of its own. -/
def sensorOf (items : List Item) : Resource :=
  { id := ⟨2⟩, kind := .sensors, typeName := "ZHATemperature", uniqueId := .generate ⟨1⟩ 1 0, items }

/-- A sensor with a private model and a temperature shows the model of its node. -/
theorem private_model_of_node_found :
    let temperature : Item :=
      { suffix := Suffix.temperature, type := .int16, value := some (.int 2100) }
    let model : Item := { suffix := Suffix.modelId, type := .string, isPublic := false }
    let r := sensorOf [temperature, model]
    let device := Device.new ⟨1⟩ Instant.start2024
    valueAt? (r.view (some device) none) Suffix.temperature = some (.integer 2100) ∧
      valueAt? (r.view (some device) (some "attr")) Suffix.temperature = none ∧
      (valueAt? (r.view (some device) none) Suffix.modelId).isSome = true ∧
      ∃ i ∈ device.node.items, i.isPublic = true ∧ i.suffix = Suffix.modelId := by
  intro temperature model r device
  have hclear : r.HasClearNames (some device) := by decide +kernel
  obtain ⟨hwhole, hpart, hprivate⟩ := view_shows_public_items hclear
  have hfound : (valueAt? (r.view (some device) none) model.suffix).isSome = true := by
    decide +kernel
  obtain ⟨d, hd, hnode⟩ := hprivate none model (by simp [r, sensorOf]) rfl hfound
  obtain rfl := Option.some.inj hd
  have hshows := hwhole temperature (by simp [r, sensorOf]) rfl (by decide) (by decide)
    (fun h => absurd h (by decide))
  exact ⟨hshows.1 (.int 2100) rfl,
    (hpart "attr").2.1 temperature (by simp [r, sensorOf, viewed]) (by decide), hfound, hnode⟩

/-- The ETag and the endpoint of the view take the place of the items of their names. -/
theorem reserved_categories_hidden :
    let r := sensorOf [{ suffix := "etag/x", type := .bool }, { suffix := "ep/x", type := .bool }]
    r.HasClearNames none ∧ (∀ i ∈ r.items, i.isPublic = true ∧ i.suffix ∉ combined) ∧
      (∀ i ∈ r.items, (valueAt? (r.view none none) i.suffix).isNone = true) ∧
      (Fields.find? (r.view none (some "etag")) "etag").isSome = true ∧
      (Fields.find? (r.view none (some "ep")) "ep").isSome = true := by
  decide +kernel

end Resource

end ZigbeeGateway
