import Mathlib.Tactic.SplitIfs
import ZigbeeGateway.Proofs.KeyedList
import ZigbeeGateway.Proofs.Value.Coercion
import ZigbeeGateway.Resource.Basic

/-!
# Setting items

What a set does, said once for an item (`Item.set_cases`) and once for a resource
(`Resource.setValue_cases`), and when it is refused (`Item.set_eq_error_iff`,
`Resource.setValue_eq_error_iff`). Where the value is fitted already, the set *puts* it into the
item: it is held from then on, unless the item is *frozen*, which is static and set
(`Item.holds_put_iff`).

A set writes the value, the stamps and the push mark of one item; the rest of the item is its
*shape*. Two states of a resource have the same shape if it is the same resource with items of the
same shapes. Sets keep shapes, and they keep every item fitted: what it holds is what its type makes
of it.
-/

namespace ZigbeeGateway

/-! ### Items -/

namespace Item

variable {item item' : Item} {v w : Value} {now : Instant} {o : SetOutcome}

/-- What an item holds, if anything, is fitted to its type. -/
def IsFitted (item : Item) : Prop :=
  ∀ w, item.value = some w → item.type.coerce w = .ok w

/-- The item without what a set may write. -/
def shape (item : Item) : Item :=
  { item with value := none, lastSet := none, lastChanged := none, needPush := false }

theorem isFitted_of_value_eq_none (h : item.value = none) : item.IsFitted := by
  intro w hw
  rw [h] at hw
  cases hw

theorem holds_iff : item.holds v = true ↔ ∃ w, item.value = some w ∧ w.sameAs v = true := by
  unfold holds
  cases item.value <;> simp

/-- **The three outcomes of a set.**  The value fits in each; a static item that is set up stays as
it is, an item that holds the value gets a new stamp, and any other item takes the value. -/
theorem set_cases (h : item.set v now = .ok (item', o)) :
    ∃ w, item.type.coerce v = .ok w ∧
      ((o = .ignored ∧ item.isStatic = true ∧ item' = item) ∨
        (o = .unchanged ∧ item.holds w = true ∧
          item' = { item with lastSet := some (nextStamp item.lastSet now) }) ∨
        (o = .changed ∧ item.holds w = false ∧
          item' = { item with
            value := some w
            lastSet := some (nextStamp item.lastSet now)
            lastChanged := some (nextStamp item.lastSet now)
            needPush := true })) := by
  unfold set at h
  split at h
  · cases h
  · rename_i w hw
    refine ⟨w, hw, ?_⟩
    split_ifs at h with hstatic hholds
    · cases h
      rw [Bool.and_eq_true] at hstatic
      exact .inl ⟨rfl, hstatic.1, rfl⟩
    · cases h
      exact .inr (.inl ⟨rfl, hholds, rfl⟩)
    · cases h
      exact .inr (.inr ⟨rfl, by simpa using hholds, rfl⟩)

/-- A set is refused exactly when the value does not fit. -/
theorem set_eq_error_iff (e : ValueError) :
    item.set v now = .error e ↔ item.type.coerce v = .error e := by
  unfold set
  cases item.type.coerce v with
  | error e' => simp
  | ok w =>
    dsimp only
    split_ifs <;> simp

theorem set_shape (h : item.set v now = .ok (item', o)) : item'.shape = item.shape := by
  obtain ⟨w, -, ⟨-, -, rfl⟩ | ⟨-, -, rfl⟩ | ⟨-, -, rfl⟩⟩ := set_cases h <;> rfl

theorem eq_of_shape_eq {α : Type*} (f : Item → α) (hf : ∀ i, f i.shape = f i)
    (h : item'.shape = item.shape) : f item' = f item := by
  rw [← hf item', h, hf item]

theorem type_of_shape_eq (h : item'.shape = item.shape) : item'.type = item.type :=
  eq_of_shape_eq Item.type (fun _ => rfl) h

theorem isStatic_of_shape_eq (h : item'.shape = item.shape) : item'.isStatic = item.isStatic :=
  eq_of_shape_eq Item.isStatic (fun _ => rfl) h

theorem isPublic_of_shape_eq (h : item'.shape = item.shape) : item'.isPublic = item.isPublic :=
  eq_of_shape_eq Item.isPublic (fun _ => rfl) h

theorem set_suffix (h : item.set v now = .ok (item', o)) : item'.suffix = item.suffix :=
  eq_of_shape_eq Item.suffix (fun _ => rfl) (set_shape h)

theorem set_type (h : item.set v now = .ok (item', o)) : item'.type = item.type :=
  type_of_shape_eq (set_shape h)

theorem IsFitted.set (hitem : item.IsFitted) (h : item.set v now = .ok (item', o)) :
    item'.IsFitted := by
  obtain ⟨w, hw, ⟨-, -, rfl⟩ | ⟨-, -, rfl⟩ | ⟨-, -, rfl⟩⟩ := set_cases h
  · exact hitem
  · exact hitem
  · -- The item holds what its type made of the value.
    intro w' hw'
    obtain rfl := Option.some.inj hw'
    exact DataType.coerce_coerce hw

/-! ### Fitted values -/

/-- The item is static and set, so that sets of it are ignored. -/
def isFrozen (item : Item) : Bool :=
  item.isStatic && item.lastSet.isSome

/-- The item after a set of a value that is fitted to it. -/
def put (item : Item) (w : Value) (now : Instant) : Item :=
  if item.isFrozen then item
  else if item.holds w then { item with lastSet := some (nextStamp item.lastSet now) }
  else
    { item with
      value := some w
      lastSet := some (nextStamp item.lastSet now)
      lastChanged := some (nextStamp item.lastSet now)
      needPush := true }

theorem put_of_isFrozen (h : item.isFrozen = true) : item.put w now = item :=
  if_pos h

theorem set_eq_put (h : item.type.coerce v = .ok w) (now : Instant) :
    ∃ o, item.set v now = .ok (item.put w now, o) := by
  unfold set put isFrozen
  rw [h]
  dsimp only
  split_ifs <;> exact ⟨_, rfl⟩

theorem setIfFits_eq_put (h : item.type.coerce v = .ok w) (now : Instant) :
    item.setIfFits v now = item.put w now := by
  obtain ⟨o, hset⟩ := set_eq_put h now
  rw [setIfFits, hset]

/-- A fitted value is held once it was put, unless the item ignores it. -/
theorem holds_put_iff (hw : w.sameAs w = true) (now : Instant) :
    (item.put w now).holds w = true ↔ (item.isFrozen = true → item.holds w = true) := by
  unfold put
  split_ifs with hfrozen hholds
  · exact ⟨fun h _ => h, fun h => h hfrozen⟩
  · exact ⟨fun _ h => absurd h hfrozen, fun _ => hholds⟩
  · exact ⟨fun _ h => absurd h hfrozen, fun _ => holds_iff.mpr ⟨w, rfl, hw⟩⟩

theorem holds_put (h : item.isFrozen = false) (hw : w.sameAs w = true) (now : Instant) :
    (item.put w now).holds w = true :=
  (holds_put_iff hw now).mpr fun hfrozen => absurd (h.symm.trans hfrozen) Bool.false_ne_true

theorem lastSet_put (h : item.isFrozen = false) (w : Value) (now : Instant) :
    (item.put w now).lastSet = some (nextStamp item.lastSet now) := by
  unfold put
  rw [h, if_neg Bool.false_ne_true]
  split_ifs <;> rfl

theorem value_put (h : item.isFrozen = false) (hholds : item.holds w = false) (now : Instant) :
    (item.put w now).value = some w := by
  rw [put, h, hholds, if_neg Bool.false_ne_true, if_neg Bool.false_ne_true]

theorem value_put_of_holds (hholds : item.holds w = true) (now : Instant) :
    (item.put w now).value = item.value := by
  rw [put, if_pos hholds]
  split_ifs <;> rfl

theorem setIfFits_of_isFrozen (h : item.isFrozen = true) (v : Value) (now : Instant) :
    item.setIfFits v now = item := by
  cases hw : item.type.coerce v with
  | error e => rw [setIfFits, (set_eq_error_iff e).mpr hw]
  | ok w => rw [setIfFits_eq_put hw, put_of_isFrozen h]

theorem shape_put (item : Item) (w : Value) (now : Instant) : (item.put w now).shape = item.shape := by
  unfold put
  split_ifs <;> rfl

end Item

/-! ### Resources -/

namespace Resource

variable {r r' : Resource} {item : Item} {suffix s : String} {v : Value} {now : Instant}
  {o : SetOutcome}

/-- The value that an item of the resource holds. -/
def value? (r : Resource) (suffix : String) : Option Value :=
  (r.item? suffix).bind (·.value)

/-- The resource without its items and what is noted about them: what it is, and whether it is
deleted. -/
def frame (r : Resource) : Resource :=
  { r with items := [], revision := 0, etag := "", changes := [], needsSave := false }

/-- Two states of a resource that differ in no more than the values of the items and what is noted
about them. -/
structure SameShape (r r' : Resource) : Prop where
  /-- It is the same resource. -/
  frame : r'.frame = r.frame
  /-- Each item keeps its shape. -/
  item : ∀ s, (r'.item? s).map Item.shape = (r.item? s).map Item.shape

/-- Resources of one frame agree in all that the frame keeps. -/
theorem eq_of_frame_eq {α : Type*} (f : Resource → α) (hf : ∀ r, f r.frame = f r)
    (h : r'.frame = r.frame) : f r' = f r := by
  rw [← hf r', h, hf r]

theorem id_of_frame_eq (h : r'.frame = r.frame) : r'.id = r.id :=
  eq_of_frame_eq Resource.id (fun _ => rfl) h

theorem uniqueId_of_frame_eq (h : r'.frame = r.frame) : r'.uniqueId = r.uniqueId :=
  eq_of_frame_eq Resource.uniqueId (fun _ => rfl) h

theorem deleted_of_frame_eq (h : r'.frame = r.frame) : r'.deleted = r.deleted :=
  eq_of_frame_eq Resource.deleted (fun _ => rfl) h

namespace SameShape

/-- A resource has its own shape. -/
theorem refl (r : Resource) : SameShape r r :=
  ⟨rfl, fun _ => rfl⟩

/-- Shapes are kept step by step. -/
theorem trans {r'' : Resource} (h : SameShape r r') (h' : SameShape r' r'') : SameShape r r'' :=
  ⟨h'.frame.trans h.frame, fun s => (h'.item s).trans (h.item s)⟩

theorem symm (h : SameShape r r') : SameShape r' r :=
  ⟨h.frame.symm, fun s => (h.item s).symm⟩

theorem exists_item? (h : SameShape r r') (hitem : r.item? s = some item) :
    ∃ item', r'.item? s = some item' ∧ item'.shape = item.shape := by
  have hshape := h.item s
  rw [hitem] at hshape
  exact Option.map_eq_some_iff.mp hshape

theorem exists_item?_of {item' : Item} (h : SameShape r r') (hitem : r'.item? s = some item') :
    ∃ item, r.item? s = some item ∧ item'.shape = item.shape := by
  have hshape := h.item s
  rw [hitem, Option.map_some] at hshape
  obtain ⟨item, hitem, heq⟩ := Option.map_eq_some_iff.mp hshape.symm
  exact ⟨item, hitem, heq.symm⟩

/-- What is asked of the type of an item, and of whether it is static, goes on to hold. -/
theorem forall_item? (h : SameShape r r') (p : DataType → Bool → Prop)
    (hp : ∀ item, r.item? s = some item → p item.type item.isStatic) :
    ∀ item, r'.item? s = some item → p item.type item.isStatic := by
  intro item' hitem'
  obtain ⟨item, hitem, heq⟩ := h.exists_item?_of hitem'
  rw [Item.type_of_shape_eq heq, Item.isStatic_of_shape_eq heq]
  exact hp item hitem

end SameShape

theorem suffix_of_item? (h : r.item? suffix = some item) : item.suffix = suffix := by
  simpa using List.find?_some h

/-- The items after one of them was changed. -/
theorem item?_modifyItem (r : Resource) {f : Item → Item}
    (hf : ∀ i, i.suffix = suffix → (f i).suffix = suffix) (s : String) :
    (r.modifyItem suffix f).item? s =
      if s = suffix then (r.item? suffix).map f else r.item? s :=
  find?_map_update Item.suffix suffix f hf r.items s

@[simp] theorem item?_refreshEtag (r : Resource) (s : String) : r.refreshEtag.item? s = r.item? s :=
  rfl

@[simp] theorem changes_modifyItem (r : Resource) (suffix : String) (f : Item → Item) :
    (r.modifyItem suffix f).changes = r.changes := rfl

/-- The items after one was added: the old one wins. -/
theorem item?_addItem (r : Resource) (item : Item) (s : String) :
    (r.addItem item).item? s = (r.item? s).or (if item.suffix = s then some item else none) := by
  unfold addItem
  split_ifs with hhas hs hs
  · -- The suffix is taken, and the item is not added.
    subst hs
    rw [hasItem, Option.isSome_iff_exists] at hhas
    obtain ⟨old, hold⟩ := hhas
    rw [hold]
    rfl
  · rw [Option.or_none]
  · simp [item?, hs]
  · simp [item?, hs]

theorem changes_addItem (r : Resource) (item : Item) : (r.addItem item).changes = r.changes := by
  unfold addItem
  split_ifs <;> rfl

/-- A blank item may be added to fitted items. -/
theorem isFitted_addItem (item : Item) (hblank : item.value = none)
    (hr : ∀ s i, r.item? s = some i → i.IsFitted) :
    ∀ s i, (r.addItem item).item? s = some i → i.IsFitted := by
  intro s i hi
  rw [item?_addItem] at hi
  cases hold : r.item? s with
  | some old =>
    rw [hold, Option.some_or] at hi
    obtain rfl := Option.some.inj hi
    exact hr s _ hold
  | none =>
    rw [hold, Option.none_or] at hi
    split_ifs at hi
    obtain rfl := Option.some.inj hi
    exact Item.isFitted_of_value_eq_none hblank

theorem sameShape_modifyItem (r : Resource) {f : Item → Item}
    (hf : ∀ i, r.item? suffix = some i → (f i).shape = i.shape)
    (hsuffix : ∀ i, i.suffix = suffix → (f i).suffix = suffix) :
    SameShape r (r.modifyItem suffix f) := by
  refine ⟨rfl, fun s => ?_⟩
  rw [item?_modifyItem r hsuffix]
  split_ifs with hs
  · subst hs
    cases hitem : r.item? s with
    | none => rfl
    | some i =>
      rw [Option.map_some, Option.map_some, hf i hitem, Option.map_some]
  · rfl

/-! ### Setting a value -/

/-- **What a set does to a resource**: one item is set, and an accepted set of a public item raises
the revision. -/
theorem setValue_cases (h : r.setValue suffix v now = .ok (r', o)) :
    ∃ item item', r.item? suffix = some item ∧ item.set v now = .ok (item', o) ∧
      (r' = (r.modifyItem suffix fun _ => item') ∨
        r' = (r.modifyItem suffix fun _ => item').refreshEtag) := by
  unfold setValue at h
  split at h
  · cases h
  · rename_i item hitem
    split at h
    · cases h
    · rename_i item' outcome hset
      cases h
      refine ⟨item, item', hitem, hset, ?_⟩
      split_ifs
      · exact .inr rfl
      · exact .inl rfl

theorem setValue_eq_error_iff (e : Error) :
    r.setValue suffix v now = .error e ↔
      (r.item? suffix = none ∧ e = .parameterNotAvailable suffix) ∨
        ∃ item cause, r.item? suffix = some item ∧ item.type.coerce v = .error cause ∧
          e = .value cause := by
  unfold setValue
  cases hitem : r.item? suffix with
  | none => simp [eq_comm]
  | some item =>
    dsimp only
    cases hset : item.set v now with
    | error cause =>
      rw [Item.set_eq_error_iff] at hset
      simp [hset, eq_comm]
    | ok result =>
      obtain ⟨item', o⟩ := result
      obtain ⟨w, hw, -⟩ := Item.set_cases hset
      simp [hw]

theorem exists_setValue_eq_ok {w : Value} (hitem : r.item? suffix = some item)
    (hw : item.type.coerce v = .ok w) (now : Instant) :
    ∃ r' o, r.setValue suffix v now = .ok (r', o) := by
  cases h : r.setValue suffix v now with
  | ok result => exact ⟨result.1, result.2, rfl⟩
  | error e =>
    rcases (setValue_eq_error_iff e).1 h with ⟨hnone, -⟩ | ⟨i, cause, hi, hcause, -⟩
    · rw [hitem] at hnone
      cases hnone
    · rw [hitem] at hi
      obtain rfl := Option.some.inj hi
      rw [hw] at hcause
      cases hcause

theorem item?_setValue (h : r.setValue suffix v now = .ok (r', o)) :
    ∃ item item', r.item? suffix = some item ∧ item.set v now = .ok (item', o) ∧
      ∀ s, r'.item? s = if s = suffix then some item' else r.item? s := by
  obtain ⟨item, item', hitem, hset, hr'⟩ := setValue_cases h
  have hsuffix : item'.suffix = suffix := by
    rw [Item.set_suffix hset, suffix_of_item? hitem]
  refine ⟨item, item', hitem, hset, fun s => ?_⟩
  have hmodify := item?_modifyItem r (f := fun _ => item') (fun _ _ => hsuffix) s
  rw [hitem, Option.map_some] at hmodify
  rcases hr' with rfl | rfl
  · exact hmodify
  · rw [item?_refreshEtag]
    exact hmodify

/-- A set of a value that fits puts what the type makes of it into the item. -/
theorem item?_setValue_eq_put {w : Value} (hitem : r.item? suffix = some item)
    (hw : item.type.coerce v = .ok w) (h : r.setValue suffix v now = .ok (r', o)) (s : String) :
    r'.item? s = if s = suffix then some (item.put w now) else r.item? s := by
  obtain ⟨old, new, hold, hset, hitems⟩ := item?_setValue h
  rw [hitem] at hold
  obtain rfl := Option.some.inj hold
  obtain ⟨o', hput⟩ := Item.set_eq_put hw now
  obtain ⟨rfl, -⟩ := Prod.mk.inj (Except.ok.inj (hset.symm.trans hput))
  exact hitems s

theorem value?_setValue_of_ne (h : r.setValue suffix v now = .ok (r', o)) (hs : s ≠ suffix) :
    r'.value? s = r.value? s := by
  obtain ⟨_, _, -, -, hitems⟩ := item?_setValue h
  rw [value?, hitems, if_neg hs, value?]

theorem sameShape_setValue (h : r.setValue suffix v now = .ok (r', o)) : SameShape r r' := by
  obtain ⟨item, item', hitem, hset, hr'⟩ := setValue_cases h
  have hmodify : SameShape r (r.modifyItem suffix fun _ => item') := by
    apply sameShape_modifyItem
    · intro i hi
      rw [hitem] at hi
      obtain rfl := Option.some.inj hi
      exact Item.set_shape hset
    · intro _ _
      rw [Item.set_suffix hset, suffix_of_item? hitem]
  rcases hr' with rfl | rfl
  · exact hmodify
  · exact ⟨hmodify.frame, hmodify.item⟩

theorem changes_setValue (h : r.setValue suffix v now = .ok (r', o)) : r'.changes = r.changes := by
  obtain ⟨item, item', -, -, rfl | rfl⟩ := setValue_cases h <;> rfl

theorem changes_setIfFits (r : Resource) (suffix : String) (v : Value) (now : Instant) :
    (r.setIfFits suffix v now).changes = r.changes := by
  unfold setIfFits
  split
  · exact changes_setValue ‹_›
  · rfl

end Resource

end ZigbeeGateway
