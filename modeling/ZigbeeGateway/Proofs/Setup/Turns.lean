import ZigbeeGateway.Proofs.Gateway.SettingUp
import ZigbeeGateway.Proofs.Resource.Stamps

/-!
# Setting up, item by item

What a sub-resource of a description does to the item of one name does not depend on any other item.
The item is *met*, with the identity of the device filled in (`Occasion.fill`), and then each template
with its name has its *turn* with it (`Item.turns`).  `item?_identify` and `item?_setUpItems` say that
resources are set up like that.
-/

namespace ZigbeeGateway

namespace Item

/-- One turn with an item: it is set up from a row or the template, and bound to the template. -/
def turn (item : Item) (t : ItemTemplate) (handle : Option TemplateHandle) (row : Option Row)
    (now : Instant) : Item :=
  (item.setUp t row now).bind t handle

theorem refit_turn (item : Item) (t : ItemTemplate) (handle : Option TemplateHandle)
    (row : Option Row) (now : Instant) : Refit item (item.turn t handle row now) :=
  (refit_setUp item t row now).trans ⟨rfl, rfl, fun h => h⟩

/-- A turn sets the item at the given time or at the time of its row. -/
theorem IsProper.turn {item : Item} {now : Instant} (hitem : item.IsProper) (hnow : now.IsProper)
    (t : ItemTemplate) (handle : Option TemplateHandle) (row : Option Row) :
    (item.turn t handle row now).IsProper := by
  show (item.setUp t row now).IsProper
  unfold Item.setUp
  -- Proper stamps come from the row or from the clock, and from nowhere else.
  split_ifs
  · exact hitem
  · split
    · rename_i restored hrestored
      obtain ⟨row, -, hrow⟩ := Option.bind_eq_some_iff.mp hrestored
      obtain ⟨t', set, o, ht', hset, rfl⟩ := Row.restore?_eq_some_iff.mp hrow
      have hproper := Instant.isProper_of_ofMillis? ht'
      split_ifs
      · exact fun t'' ht'' => Option.some.inj ht'' ▸ hproper
      · exact hitem.set hproper hset
    · unfold Item.fillFrom
      split
      · exact hitem
      · split
        · split_ifs
          · exact hitem
          · exact hitem.setIfFits hnow _
        · exact hitem

/-- **A turn brings a stored value back**, if its row can be restored and nothing is static. -/
theorem value_turn {item : Item} {t : ItemTemplate} {row : Row} (hitem : item.isStatic = false)
    (ht : t.isStatic = false) (htime : (Instant.ofMillis? row.millis).isSome = true)
    (hfits : item.type.coerce row.value = .ok row.value)
    (hsame : ∀ v, item.value = some v → v.sameAs row.value = true → v = row.value)
    (handle : Option TemplateHandle) (now : Instant) :
    (item.turn t handle (some row) now).value = some row.value := by
  obtain ⟨time, htime⟩ := Option.isSome_iff_exists.mp htime
  obtain ⟨set, o, hset⟩ : ∃ set o, item.set row.value time = .ok (set, o) := by
    cases hresult : item.set row.value time with
    | ok result => exact ⟨result.1, result.2, rfl⟩
    | error e =>
      rw [(set_eq_error_iff e).mp hresult] at hfits
      cases hfits
  -- The row fits, so the set changes the value or finds it held; nothing is static.
  have hvalue : set.value = some row.value := by
    obtain ⟨w, hw, ⟨-, hstatic, -⟩ | ⟨-, hholds, rfl⟩ | ⟨-, -, rfl⟩⟩ := set_cases hset
    · rw [hitem] at hstatic
      cases hstatic
    · obtain rfl := Except.ok.inj (hfits.symm.trans hw)
      obtain ⟨v, hv, hv'⟩ := holds_iff.mp hholds
      rw [← hsame v hv hv']
      exact hv
    · exact congrArg some (Except.ok.inj (hw.symm.trans hfits))
  unfold turn setUp
  rw [ht, Bool.and_false, if_neg Bool.false_ne_true, Option.bind_some,
    Row.restore?_eq_some_iff.mpr ⟨time, set, o, htime, hset, rfl⟩]
  show (if set.stampInRange then set.restamp time else set).value = _
  split_ifs <;> exact hvalue

/-- The turn of a template, which makes an item of its type if there is none. -/
def turn? (item : Option Item) (t : ItemTemplate) (handle : Option TemplateHandle)
    (row : Option Row) (now : Instant) : Option Item :=
  match t.type? with
  | none => item
  | some type => some ((item.getD { suffix := t.name, type }).turn t handle row now)

/-- The turns of all templates with a name, which start at a given position. -/
def turns (n : String) (handle? : Nat → Option TemplateHandle) (row : Option Row) (now : Instant) :
    Nat → List ItemTemplate → Option Item → Option Item
  | _, [], item => item
  | position, t :: ts, item =>
    turns n handle? row now (position + 1) ts
      (if t.name = n then turn? item t (handle? position) row now else item)

section Turns

variable {n : String} {handle? : Nat → Option TemplateHandle} {row : Option Row} {now : Instant}
  {ts : List ItemTemplate} {t : ItemTemplate}

/-- Templates that have another name, or no type, leave the item alone. -/
theorem turns_of_forall (h : ∀ t ∈ ts, t.name = n → t.type? = none) (position : Nat)
    (item : Option Item) : turns n handle? row now position ts item = item := by
  induction ts generalizing position with
  | nil => rfl
  | cons t ts ih =>
    have hfirst : (if t.name = n then turn? item t (handle? position) row now else item) = item := by
      split_ifs with hn
      · rw [turn?, h t List.mem_cons_self hn]
      · rfl
    rw [turns, hfirst, ih fun t' ht' => h t' (List.mem_cons_of_mem t ht')]

/-- A name that one template has, apart from templates without a type, has the turn of this
template. -/
theorem turns_of_once {k : Nat} (ht : ts[k]? = some t) (hn : t.name = n)
    (hothers : ∀ j t', ts[j]? = some t' → j ≠ k → t'.name = n → t'.type? = none)
    (position : Nat) (item : Option Item) :
    turns n handle? row now position ts item = turn? item t (handle? (position + k)) row now := by
  -- As for the visits, the one turn is met at position plus index.
  induction ts generalizing position k with
  | nil => cases ht
  | cons first ts ih =>
    rw [turns]
    cases k with
    | zero =>
      obtain rfl := Option.some.inj ht
      rw [if_pos hn]
      refine turns_of_forall (fun t' ht' hn' => ?_) _ _
      obtain ⟨j, hj⟩ := List.mem_iff_getElem?.mp ht'
      exact hothers (j + 1) t' hj (Nat.succ_ne_zero j) hn'
    | succ k =>
      have hfirst : (if first.name = n then turn? item first (handle? position) row now else item) =
          item := by
        split_ifs with hname
        · rw [turn?, hothers 0 first rfl (Nat.succ_ne_zero k).symm hname]
        · rfl
      rw [hfirst, ih ht fun j t' hj hne => hothers (j + 1) t' hj fun heq => hne (Nat.succ.inj heq)]
      congr 2
      omega

end Turns

end Item

namespace Resource

variable {r : Resource}

theorem item?_setUpItem (r : Resource) (t : ItemTemplate) (handle : Option TemplateHandle)
    (rows : List Row) (now : Instant) (n : String) :
    (r.setUpItem t handle rows now).item? n =
      if t.name = n then Item.turn? (r.item? n) t handle (rows.find? (·.suffix = n)) now
      else r.item? n := by
  unfold setUpItem Item.turn?
  cases htype : t.type? with
  | none => exact (ite_self _).symm
  | some type =>
    dsimp only
    have hkeeps : ∀ i : Item, i.suffix = t.name →
        ((i.setUp t (rows.find? (·.suffix = t.name)) now).bind t handle).suffix = t.name :=
      fun i hi => (Item.refit_setUp i t _ now).suffix.trans hi
    rw [item?_modifyItem _ hkeeps, item?_addItem, item?_addItem]
    by_cases hn : t.name = n
    · subst hn
      rw [if_pos rfl, if_pos rfl]
      cases r.item? t.name <;> simp [Item.turn]
    · rw [if_neg hn, if_neg (Ne.symm hn), if_neg hn, Option.or_none]

/-- **Setting up items is a matter of each name alone.** -/
theorem item?_setUpItems (r : Resource) (handle? : Nat → Option TemplateHandle) (rows : List Row)
    (now : Instant) (position : Nat) (ts : List ItemTemplate) (n : String) :
    (r.setUpItems handle? rows now position ts).item? n =
      Item.turns n handle? (rows.find? (·.suffix = n)) now position ts (r.item? n) := by
  induction ts generalizing r position with
  | nil => rfl
  | cons t ts ih => rw [setUpItems, ih, item?_setUpItem, Item.turns]

/-- A set that may be refused is a matter of one item. -/
theorem item?_setIfFits (r : Resource) (suffix : String) (v : Value) (now : Instant) (n : String) :
    (r.setIfFits suffix v now).item? n =
      if n = suffix then (r.item? n).map (·.setIfFits v now) else r.item? n := by
  unfold setIfFits Item.setIfFits
  cases hset : r.setValue suffix v now with
  | ok result =>
    obtain ⟨item, item', hitem, hitemset, hitems⟩ := item?_setValue hset
    dsimp only
    rw [hitems]
    split_ifs with hn
    · rw [hn, hitem, Option.map_some, hitemset]
    · rfl
  | error e =>
    dsimp only
    split_ifs with hn
    · -- The item is not there, or it refuses the value as well.
      subst hn
      rcases (setValue_eq_error_iff e).mp hset with ⟨hnone, -⟩ | ⟨item, cause, hitem, hcause, -⟩
      · rw [hnone]
        rfl
      · rw [hitem, Option.map_some, (Item.set_eq_error_iff cause).mpr hcause]
    · rfl

/-- Filling in the identity is a matter of one item. -/
theorem item?_fillIdentity (r : Resource) (suffix value : String) (now : Instant) (n : String) :
    (r.fillIdentity suffix value now).item? n =
      if n = suffix then (r.item? n).map fun item =>
        if item.text.isEmpty && !value.isEmpty then item.setIfFits (.text value) now else item
      else r.item? n := by
  unfold fillIdentity
  by_cases hn : n = suffix
  · subst hn
    rw [if_pos rfl]
    cases hitem : r.item? n with
    | none => simp [hitem]
    | some item =>
      rw [Option.any_some, Option.map_some]
      split_ifs
      · rw [item?_setIfFits, if_pos rfl, hitem, Option.map_some]
      · exact hitem
  · rw [if_neg hn]
    split_ifs
    · rw [item?_setIfFits, if_neg hn]
    · rfl

end Resource

/-! ### Meeting an item -/

namespace Premises.Occasion

variable {o : Occasion} {n : String}

/-- What is known of the device for the item with a name; empty if nothing is. -/
def known (o : Occasion) (n : String) : String :=
  if n = Suffix.manufacturerName then o.manufacturer
  else if n = Suffix.modelId then o.model
  else ""

/-- The item with what is known of the device filled in, if it has no text. -/
def fill (o : Occasion) (n : String) (item : Item) : Item :=
  if item.text.isEmpty && !(o.known n).isEmpty then item.setIfFits (.text (o.known n)) o.now
  else item

/-- Filling in sets the item at the given time. -/
theorem isProper_fill {item : Item} (hitem : item.IsProper) (hnow : o.now.IsProper) :
    (o.fill n item).IsProper := by
  unfold fill
  split_ifs
  · exact hitem.setIfFits hnow _
  · exact hitem

/-- Noting the identity fills in each item by itself. -/
theorem item?_identify (o : Occasion) (r : Resource) (n : String) :
    (o.identify r).item? n = (r.item? n).map (o.fill n) := by
  unfold identify
  rw [Resource.item?_fillIdentity, Resource.item?_fillIdentity]
  -- The two texts of the identity are different items, so each is filled by its own note.
  by_cases hmodel : n = Suffix.modelId
  · have hne : n ≠ Suffix.manufacturerName := by
      rw [hmodel]
      decide
    rw [if_pos hmodel, if_neg hne]
    congr 1
    funext item
    rw [fill, known, if_neg hne, if_pos hmodel]
  · rw [if_neg hmodel]
    by_cases hmanufacturer : n = Suffix.manufacturerName
    · rw [if_pos hmanufacturer]
      congr 1
      funext item
      rw [fill, known, if_pos hmanufacturer]
    · rw [if_neg hmanufacturer]
      have hfill : o.fill n = id := by
        funext item
        rw [fill, known, if_neg hmanufacturer, if_neg hmodel]
        simp
      rw [hfill, Option.map_id, id]

/-- What is stored of an item when it is met: an item of the identity is stored, and any other is
not. -/
def rowFor (n : String) (item : Option Item) (row : Option Row) : Option Row :=
  if n ∈ identity then (item.bind Row.ofItem?).or row else row

/-- What one sub-resource does to the item of a name and its row. -/
def visit (o : Occasion) (handle? : Nat → Option TemplateHandle) (s : SubDevice) (n : String)
    (x : Option Item × Option Row) : Option Item × Option Row :=
  let met := x.1.map (o.fill n)
  let row := rowFor n met x.2
  (Item.turns n handle? row o.now 0 s.items met, row)

end Premises.Occasion

end ZigbeeGateway
