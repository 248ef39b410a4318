import ZigbeeGateway.Proofs.Resource.Stamps
import ZigbeeGateway.Proofs.Setup.Turns
import ZigbeeGateway.Proofs.Storage

/-!
# Turns that are repeated

A turn (`Item.turn`) puts into an item what its row holds, or else what the template starts with.  An
item is *settled* if it holds this value already, under the time of the row if there is one:
`turn_eq_self_iff` says that a turn leaves just the settled items alone.  The turn of a template
settles an item, so that another one changes nothing, with one exception (`isSettled_turn_iff`): a
*frozen* item, static and set, ignores the value, and then it is no longer static.
-/

namespace ZigbeeGateway

/-! ### Stamps -/

namespace Instant

variable {millis : Int} {t : Instant}

theorem inRange_of_ofMillis? (h : ofMillis? millis = some t) : t.inRange = true := by
  unfold ofMillis? at h
  dsimp only at h
  split_ifs at h with hrange
  exact Option.some.inj h ▸ hrange

/-- The microsecond after a whole millisecond lies in the same second. -/
theorem inRange_addMicrosecond (h : ofMillis? millis = some t) :
    t.addMicrosecond.inRange = true := by
  have hrange := inRange_of_ofMillis? h
  unfold ofMillis? at h
  dsimp only at h
  split_ifs at h
  obtain rfl := Option.some.inj h
  have hseconds : ∀ s n, (Instant.mk s n).inRange = (Instant.mk s 0).inRange := fun _ _ => rfl
  unfold addMicrosecond addNanos nanosPerSecond at *
  split_ifs
  · rw [hseconds] at hrange ⊢
    exact hrange
  · dsimp only
    rw [hseconds] at hrange ⊢
    rw [← hrange]
    congr 2
    omega

theorem before_self (t : Instant) : t.before t = false := by
  rw [Bool.eq_false_iff]
  exact Later.irrefl (some t)

end Instant

/-! ### What is put into an item -/

/-- What a row offers to an item of a type: its time and its value, if it can be restored. -/
def Row.offer? (row : Row) (type : DataType) : Option (Instant × Value) := do
  let time ← Instant.ofMillis? row.millis
  let v ← (type.coerce row.value).toOption
  return (time, v)

/-- What a template offers to an item of a type that has no row. -/
def ItemTemplate.start? (t : ItemTemplate) (type : DataType) : Option Value :=
  t.startValue?.bind fun v => (type.coerce v).toOption

/-- The value that a turn offers to an item of a type. -/
def ItemTemplate.offer? (t : ItemTemplate) (type : DataType) (row : Option Row) : Option Value :=
  ((row.bind (·.offer? type)).map Prod.snd).or (t.start? type)

theorem Except.toOption_eq_some_iff {ε α : Type*} {x : Except ε α} {a : α} :
    x.toOption = some a ↔ x = .ok a := by
  cases x <;> simp [Except.toOption]

theorem Row.offer?_eq_some_iff {row : Row} {type : DataType} {time : Instant} {w : Value} :
    row.offer? type = some (time, w) ↔
      Instant.ofMillis? row.millis = some time ∧ type.coerce row.value = .ok w := by
  simp [offer?, Option.bind_eq_some_iff, Except.toOption_eq_some_iff]

theorem ItemTemplate.start?_eq_some_iff {t : ItemTemplate} {type : DataType} {w : Value} :
    t.start? type = some w ↔ ∃ v, t.startValue? = some v ∧ type.coerce v = .ok w := by
  simp [start?, Option.bind_eq_some_iff, Except.toOption_eq_some_iff]

namespace Item

variable {item : Item} {t : ItemTemplate} {handle : Option TemplateHandle} {row : Option Row}
  {v w : Value} {now time : Instant}

/-- Gives a restored item the time of its row, if it was set in the range of instants. -/
def backdate (item : Item) (time : Instant) : Item :=
  if item.stampInRange then item.restamp time else item

theorem shape_backdate (item : Item) (time : Instant) : (item.backdate time).shape = item.shape := by
  unfold backdate
  split_ifs <;> rfl

end Item

/-- A row is restored into an item of a type that takes its value. -/
theorem Row.restore?_eq (row : Row) (item : Item) :
    row.restore? item = (row.offer? item.type).map fun (time, w) =>
      (item.put w time).backdate time := by
  refine Option.ext fun restored => ?_
  rw [restore?_eq_some_iff, Option.map_eq_some_iff]
  constructor
  · rintro ⟨time, set, o, htime, hset, rfl⟩
    obtain ⟨w, hw, -⟩ := Item.set_cases hset
    obtain ⟨o', hput⟩ := Item.set_eq_put hw time
    obtain ⟨rfl, -⟩ := Prod.mk.inj (Except.ok.inj (hset.symm.trans hput))
    exact ⟨(time, w), offer?_eq_some_iff.mpr ⟨htime, hw⟩, rfl⟩
  · rintro ⟨⟨time, w⟩, hoffer, rfl⟩
    obtain ⟨htime, hw⟩ := offer?_eq_some_iff.mp hoffer
    obtain ⟨o, hput⟩ := Item.set_eq_put hw time
    exact ⟨time, _, o, htime, hput, rfl⟩

namespace Item

variable {item : Item} {t : ItemTemplate} {handle : Option TemplateHandle} {row : Option Row}
  {v w : Value} {now time : Instant}

/-- **What setting up does to an item that is not kept.** -/
theorem setUp_eq (h : (item.lastSet.isSome && t.isStatic) = false) (row : Option Row)
    (now : Instant) :
    item.setUp t row now =
      match row.bind (·.offer? item.type) with
      | some (time, w) => (item.put w time).backdate time
      | none =>
        match t.start? item.type with
        | some w => if item.holds w then item else item.put w now
        | none => item := by
  have hrestore : row.bind (·.restore? item) = (row.bind (·.offer? item.type)).map fun (time, w) =>
      (item.put w time).backdate time := by
    cases row with
    | none => rfl
    | some row => exact row.restore?_eq item
  -- A start is put as an offer is, but only if it is not held already.
  have hfill : item.fillFrom t now = match t.start? item.type with
      | some w => if item.holds w then item else item.put w now
      | none => item := by
    unfold fillFrom ItemTemplate.start?
    cases t.startValue? with
    | none => rfl
    | some v =>
      dsimp only [Option.bind_some]
      cases hw : item.type.coerce v with
      | error e => rfl
      | ok w =>
        dsimp only [Except.toOption]
        rw [setIfFits_eq_put (DataType.coerce_coerce hw)]
  unfold setUp
  rw [h, if_neg Bool.false_ne_true, hrestore, hfill]
  cases row.bind (·.offer? item.type) <;> rfl

theorem shape_setUp (item : Item) (t : ItemTemplate) (row : Option Row) (now : Instant) :
    (item.setUp t row now).shape = item.shape := by
  cases h : item.lastSet.isSome && t.isStatic with
  | true => rw [setUp, h, if_pos rfl]
  | false =>
    rw [setUp_eq h]
    split
    · exact (shape_backdate _ _).trans (shape_put item _ _)
    · split
      · split_ifs
        · rfl
        · exact shape_put item _ now
      · rfl

/-! ### Settled items -/

/-- The item holds what a turn would put into it, under the time of the row if there is one. -/
structure IsSettled (item : Item) (t : ItemTemplate) (row : Option Row) : Prop where
  restored : ∀ time w, row.bind (·.offer? item.type) = some (time, w) →
    item.holds w = true ∧ item.lastSet = some time ∧ item.lastChanged = some time
  started : row.bind (·.offer? item.type) = none → ∀ w, t.start? item.type = some w →
    item.holds w = true

theorem isSettled_iff_of_some (h : row.bind (·.offer? item.type) = some (time, w)) :
    item.IsSettled t row ↔
      item.holds w = true ∧ item.lastSet = some time ∧ item.lastChanged = some time := by
  refine ⟨fun hsettled => hsettled.restored time w h, fun hrestored => ⟨fun time' w' h' => ?_,
    fun hnone => ?_⟩⟩
  · obtain ⟨rfl, rfl⟩ := Prod.mk.inj (Option.some.inj (h.symm.trans h'))
    exact hrestored
  · rw [h] at hnone
    cases hnone

theorem isSettled_iff_of_none (h : row.bind (·.offer? item.type) = none) :
    item.IsSettled t row ↔ ∀ w, t.start? item.type = some w → item.holds w = true := by
  refine ⟨fun hsettled => hsettled.started h, fun hstarted => ⟨fun time w h' => ?_,
    fun _ => hstarted⟩⟩
  rw [h] at h'
  cases h'

/-- The item is bound to a template. -/
def IsBound (item : Item) (t : ItemTemplate) (handle : Option TemplateHandle) : Prop :=
  item.bind t handle = item

theorem isBound_bind (item : Item) (t : ItemTemplate) (handle : Option TemplateHandle) :
    (item.bind t handle).IsBound t handle := by
  unfold IsBound bind
  cases t.refreshInterval <;> rfl

theorem IsBound.of_shape_eq {item' : Item} (h : item.IsBound t handle)
    (hshape : item'.shape = item.shape) : item'.IsBound t handle := by
  have hbound : ∀ i : Item, i.IsBound t handle ↔ i.shape.IsBound t handle := by
    intro i
    unfold IsBound bind shape
    cases i
    simp
  rw [hbound, hshape, ← hbound]
  exact h

theorem IsBound.isStatic_eq (h : item.IsBound t handle) : t.isStatic = item.isStatic :=
  congrArg isStatic h

/-- A turn with an item that is bound sets it up. -/
theorem IsBound.turn_eq (h : item.IsBound t handle) (row : Option Row) (now : Instant) :
    item.turn t handle row now = item.setUp t row now :=
  h.of_shape_eq (shape_setUp item t row now)

/-- Restoring an item leaves it alone if it holds the value under the time of its row. -/
theorem backdate_put_eq_self_iff (hfrozen : item.isFrozen = false) (hrange : item.stampInRange = true)
    {millis : Int} (htime : Instant.ofMillis? millis = some time) (hw : w.sameAs w = true) :
    (item.put w time).backdate time = item ↔
      item.holds w = true ∧ item.lastSet = some time ∧ item.lastChanged = some time := by
  constructor
  · intro heq
    have hheld : ((item.put w time).backdate time).holds w = true := by
      have hput := holds_put hfrozen hw time
      unfold backdate
      split_ifs <;> exact hput
    rw [heq] at hheld
    refine ⟨hheld, ?_⟩
    unfold backdate at heq
    split_ifs at heq with hin
    · exact ⟨(congrArg lastSet heq).symm, (congrArg lastChanged heq).symm⟩
    · -- A stamp out of range is not the one that the item has.
      rw [heq] at hin
      exact absurd hrange hin
  · rintro ⟨hholds, hset, hchanged⟩
    have hput : item.put w time = { item with lastSet := some time.addMicrosecond } := by
      rw [put, hfrozen, if_neg Bool.false_ne_true, if_pos hholds, hset, nextStamp,
        Instant.before_self, if_neg Bool.false_ne_true]
    have hin : (item.put w time).stampInRange = true := by
      rw [hput]
      exact Instant.inRange_addMicrosecond htime
    rw [backdate, if_pos hin, hput]
    show { item with lastSet := some time, lastChanged := some time } = item
    rw [← hset]
    nth_rewrite 2 [hset]
    rw [← hchanged]

/-- **A turn leaves just the settled items alone**, among those that are not frozen. -/
theorem turn_eq_self_iff (hbound : item.IsBound t handle) (hfrozen : item.isFrozen = false)
    (hrange : item.stampInRange = true) (row : Option Row) (now : Instant) :
    item.turn t handle row now = item ↔ item.IsSettled t row := by
  have hsetUp : (item.lastSet.isSome && t.isStatic) = false := by
    rw [hbound.isStatic_eq, Bool.and_comm]
    exact hfrozen
  rw [hbound.turn_eq, setUp_eq hsetUp]
  cases hoffer : row.bind (·.offer? item.type) with
  | some offer =>
    obtain ⟨time, w⟩ := offer
    obtain ⟨row, -, hrow⟩ := Option.bind_eq_some_iff.mp hoffer
    obtain ⟨htime, hw⟩ := Row.offer?_eq_some_iff.mp hrow
    rw [isSettled_iff_of_some hoffer]
    exact backdate_put_eq_self_iff hfrozen hrange htime (DataType.sameAs_self_of_coerce hw)
  | none =>
    rw [isSettled_iff_of_none hoffer]
    cases hstart : t.start? item.type with
    | none => simp
    | some w =>
      obtain ⟨v, -, hw⟩ := ItemTemplate.start?_eq_some_iff.mp hstart
      simp only [Option.some.injEq, forall_eq']
      refine ⟨fun heq => ?_, fun h => if_pos h⟩
      -- A start that was not held would have been put, and then it is held.
      by_contra hnot
      rw [if_neg hnot] at heq
      exact hnot (heq ▸ holds_put hfrozen (DataType.sameAs_self_of_coerce hw) now)

/-! ### After a turn -/

/-- **A turn settles an item**, unless the item is frozen and holds something else. -/
theorem isSettled_turn_iff (ht : t.isStatic = false)
    (hrange : (item.turn t handle row now).stampInRange = true) :
    (item.turn t handle row now).IsSettled t row ↔
      (item.isFrozen = true → ∀ w, t.offer? item.type row = some w → item.holds w = true) := by
  have htype := (refit_turn item t handle row now).type
  have hsetUp : (item.lastSet.isSome && t.isStatic) = false := by rw [ht, Bool.and_false]
  have hturn : item.turn t handle row now = (item.setUp t row now).bind t handle := rfl
  rw [setUp_eq hsetUp] at hturn
  -- What is offered is the row if there is one that fits, and else the start of the template.
  unfold ItemTemplate.offer?
  cases hoffer : row.bind (·.offer? item.type) with
  | some offer =>
    obtain ⟨time, w⟩ := offer
    obtain ⟨row, -, hrow⟩ := Option.bind_eq_some_iff.mp hoffer
    have hw := DataType.sameAs_self_of_coerce (Row.offer?_eq_some_iff.mp hrow).2
    rw [isSettled_iff_of_some (htype ▸ hoffer)]
    rw [hoffer] at hturn
    rw [hturn] at hrange ⊢
    dsimp only at hrange ⊢
    -- The stamp is in range, so the time of the row is what the item is dated back to.
    have hback : (item.put w time).backdate time = (item.put w time).restamp time := by
      by_cases hin : (item.put w time).stampInRange = true
      · exact if_pos hin
      · rw [backdate, if_neg hin] at hrange
        exact absurd hrange hin
    rw [hback]
    simp only [Option.map_some, Option.some_or, Option.some.injEq, forall_eq']
    rw [← holds_put_iff hw time]
    exact ⟨fun h => h.1, fun h => ⟨h, rfl, rfl⟩⟩
  | none =>
    rw [isSettled_iff_of_none (htype ▸ hoffer), htype]
    rw [hoffer] at hturn
    simp only [Option.map_none, Option.none_or]
    cases hstart : t.start? item.type with
    | none => simp
    | some w =>
      obtain ⟨v, -, hw⟩ := ItemTemplate.start?_eq_some_iff.mp hstart
      simp only [Option.some.injEq, forall_eq']
      rw [hstart] at hturn
      rw [hturn]
      dsimp only
      -- An item that holds the start already is not set once more.
      split_ifs with hholds
      · exact ⟨fun _ _ => hholds, fun _ => hholds⟩
      · exact holds_put_iff (DataType.sameAs_self_of_coerce hw) now

/-- A text that is met with its own row stays, or the item is set once more. -/
theorem IsBound.value_or_lastSet_turn (hbound : item.IsBound t handle) (htype : item.type = .string)
    {s : String} (hvalue : item.value = some (.text s)) (now : Instant) :
    (item.turn t handle (Row.ofItem? item) now).value = some (.text s) ∨
      (item.turn t handle (Row.ofItem? item) now).lastSet = some (nextStamp item.lastSet now) := by
  rw [hbound.turn_eq]
  cases hset : item.lastSet.isSome && t.isStatic with
  | true =>
    rw [setUp, hset, if_pos rfl]
    exact .inl hvalue
  | false =>
    have hopen : item.isFrozen = false := by
      rw [isFrozen, ← hbound.isStatic_eq, Bool.and_comm, hset]
    rw [setUp_eq hset]
    cases hoffer : (Row.ofItem? item).bind (·.offer? item.type) with
    | some offer =>
      -- The row holds the text, too.
      obtain ⟨time, w⟩ := offer
      obtain ⟨row, hrow, hoffered⟩ := Option.bind_eq_some_iff.mp hoffer
      obtain ⟨row', hrow', hsame⟩ := Row.exists_ofItem? (by rw [hvalue]; rfl)
      obtain rfl := Option.some.inj (hrow.symm.trans hrow')
      obtain rfl : Value.text s = w := by
        have hw := (Row.offer?_eq_some_iff.mp hoffered).2
        rw [← Option.some.inj (hvalue.symm.trans hsame), htype] at hw
        exact Except.ok.inj hw
      have hheld : item.holds (.text s) = true := holds_iff.mpr ⟨_, hvalue, by simp [Value.sameAs]⟩
      refine .inl (Eq.trans ?_ ((value_put_of_holds hheld time).trans hvalue))
      dsimp only
      unfold backdate
      split_ifs <;> rfl
    | none =>
      dsimp only
      split
      · split_ifs
        · exact .inl hvalue
        · exact .inr (lastSet_put hopen _ _)
      · exact .inl hvalue

/-- A static template freezes the item, or it only binds an item that was never set and that has
nothing to take. -/
theorem isFrozen_or_isSettled_turn (ht : t.isStatic = true) (item : Item)
    (handle : Option TemplateHandle) (row : Option Row) (now : Instant) :
    (item.turn t handle row now).isFrozen = true ∨
      item.turn t handle row now = item.bind t handle ∧
        (item.turn t handle row now).IsSettled t row := by
  have htype := (refit_turn item t handle row now).type
  have hturn : item.turn t handle row now = (item.setUp t row now).bind t handle := rfl
  -- Under a static template whatever was set once is frozen.
  have hfrozen : ∀ i : Item, i.lastSet.isSome = true → (i.bind t handle).isFrozen = true := by
    intro i hi
    show (t.isStatic && i.lastSet.isSome) = true
    rw [ht, hi]
    rfl
  -- An item that was set before is not set up again, and it freezes as it is bound.
  cases hset : item.lastSet.isSome with
  | true =>
    refine .inl ?_
    rw [hturn, setUp, hset, ht]
    exact hfrozen item hset
  | false =>
    have hsetUp : (item.lastSet.isSome && t.isStatic) = false := by rw [hset, Bool.false_and]
    have hopen : item.isFrozen = false := by rw [isFrozen, hset, Bool.and_false]
    -- Every put stamps the item, so what takes a value here freezes.
    have hput : ∀ w time, (item.put w time).lastSet.isSome = true := fun w time => by
      rw [lastSet_put hopen]
      rfl
    rw [setUp_eq hsetUp] at hturn
    cases hoffer : row.bind (·.offer? item.type) with
    | some offer =>
      -- A row is put in any case.
      refine .inl ?_
      rw [hoffer] at hturn
      rw [hturn]
      refine hfrozen _ ?_
      dsimp only
      unfold backdate
      split_ifs
      · rfl
      · exact hput offer.2 offer.1
    | none =>
      rw [isSettled_iff_of_none (htype ▸ hoffer), htype]
      rw [hoffer] at hturn
      cases hstart : t.start? item.type with
      | none =>
        rw [hstart] at hturn
        -- Without row and start the item is only bound, and nothing was offered.
        exact .inr ⟨hturn, fun w hw => by cases hw⟩
      | some w =>
        rw [hstart] at hturn
        dsimp only at hturn
        split_ifs at hturn with hholds
        · -- The start is held already, so it is not put.
          refine .inr ⟨hturn, fun w' hw' => ?_⟩
          rw [hturn, ← Option.some.inj hw']
          exact hholds
        · rw [hturn]
          exact .inl (hfrozen _ (hput w now))

end Item

/-! ### Meeting an item again -/

/-- Only a text is the same as a text. -/
theorem Value.eq_of_sameAs_text_right {s : String} {v : Value} (h : v.sameAs (.text s) = true) :
    v = .text s := by
  unfold sameAs at h
  simpa using h

namespace Premises.Occasion

variable {o : Occasion} {n : String} {item : Item} {t : ItemTemplate}
  {handle : Option TemplateHandle} {row : Option Row}

/-- What is known of the device for the item with a name is in the item, or nothing is known. -/
def Notes (o : Occasion) (n : String) (item : Item) : Prop :=
  item.text.isEmpty = true → (o.known n).isEmpty = true

theorem notes_of_notMem (hn : n ∉ identity) : o.Notes n item := by
  unfold identity at hn
  simp only [List.mem_cons, List.not_mem_nil, or_false, not_or] at hn
  intro _
  rw [known, if_neg hn.1, if_neg hn.2]
  rfl

theorem fill_of_notes (h : o.Notes n item) : o.fill n item = item := by
  unfold fill
  refine if_neg fun hempty => ?_
  rw [Bool.and_eq_true, Bool.not_eq_true'] at hempty
  rw [h hempty.1] at hempty
  exact Bool.false_ne_true hempty.2.symm

theorem fill_of_isFrozen (h : item.isFrozen = true) : o.fill n item = item := by
  unfold fill
  split_ifs
  · exact Item.setIfFits_of_isFrozen h _ _
  · rfl

/-- What a sub-resource that has one template for an item does to it. -/
def meet (o : Occasion) (n : String) (t : ItemTemplate) (handle : Option TemplateHandle)
    (row : Option Row) (item : Item) : Item :=
  (o.fill n item).turn t handle (rowFor n (some (o.fill n item)) row) o.now

/-- An item in which something known is not noted is set. -/
theorem fill_of_not_notes (h : ¬ o.Notes n item) (htype : item.type = .string) :
    o.fill n item = item.put (.text (o.known n)) o.now ∧
      item.holds (.text (o.known n)) = false := by
  obtain ⟨hempty, hknown⟩ := Classical.not_imp.mp h
  rw [Bool.not_eq_true] at hknown
  constructor
  · rw [fill, hempty, hknown]
    exact Item.setIfFits_eq_put (by rw [htype]; rfl) o.now
  · rw [Bool.eq_false_iff]
    intro hholds
    obtain ⟨v, hv, hsame⟩ := Item.holds_iff.mp hholds
    rw [Item.text, hv, Value.eq_of_sameAs_text_right hsame] at hempty
    rw [show (o.known n).isEmpty = true from hempty] at hknown
    cases hknown

/-- **An item in which something known is not noted is changed**, as its value or its stamp shows. -/
theorem meet_ne_self (hbound : item.IsBound t handle) (hfrozen : item.isFrozen = false)
    (hnotes : ¬ o.Notes n item) (htype : item.type = .string) (hproper : item.IsProper)
    (hnow : o.now.IsProper) (row : Option Row) : o.meet n t handle row item ≠ item := by
  have hn : n ∈ identity := by
    by_contra hn
    exact hnotes (notes_of_notMem hn)
  obtain ⟨hfill, hholds⟩ := fill_of_not_notes hnotes htype
  have hvalue := Item.value_put hfrozen hholds o.now
  have hlater := hproper.later_nextStamp o.now
  rw [← Item.lastSet_put hfrozen (.text (o.known n)) o.now] at hlater
  have hfilled := isProper_fill (n := n) hproper hnow
  have hshape := Item.shape_put item (.text (o.known n)) o.now
  have htype' := (Item.type_of_shape_eq hshape).trans htype
  unfold meet
  rw [hfill] at hfilled ⊢
  have hbound' := hbound.of_shape_eq hshape
  generalize item.put (.text (o.known n)) o.now = filled at *
  have hrow : rowFor n (some filled) row = Row.ofItem? filled := by
    obtain ⟨stored, hstored, -⟩ := Row.exists_ofItem? (by rw [hvalue]; rfl)
    rw [rowFor, if_pos hn, Option.bind_some, hstored, Option.some_or]
  rw [hrow]
  -- A turn that gives the item back would have taken the text away and kept the first stamp.
  intro heq
  have hresult := hbound'.value_or_lastSet_turn htype' hvalue o.now
  rw [heq] at hresult
  rcases hresult with hsame | hstamp
  · rw [Item.holds_iff.mpr ⟨_, hsame, by simp [Value.sameAs]⟩] at hholds
    cases hholds
  · refine Instant.Later.irrefl item.lastSet (hlater.trans ?_)
    rw [hstamp]
    exact hfilled.later_nextStamp o.now

/-- **Meeting leaves just the frozen items alone and those that are settled with all that is known
noted in them.** -/
theorem meet_eq_self_iff (hbound : item.IsBound t handle) (hrange : item.stampInRange = true)
    (htype : n ∈ identity → item.type = .string) (hproper : n ∈ identity → item.IsProper)
    (hnow : o.now.IsProper) (row : Option Row) :
    o.meet n t handle row item = item ↔
      item.isFrozen = true ∨
        o.Notes n item ∧ item.IsSettled t (rowFor n (some item) row) := by
  cases hfrozen : item.isFrozen with
  | true =>
    refine ⟨fun _ => .inl rfl, fun _ => ?_⟩
    rw [meet, fill_of_isFrozen hfrozen, hbound.turn_eq, Item.setUp, hbound.isStatic_eq,
      Bool.and_comm]
    exact if_pos hfrozen
  | false =>
    -- The identity is filled in before the turn, so an item that does not hold it is changed.
    by_cases hnotes : o.Notes n item
    · rw [meet, fill_of_notes hnotes, Item.turn_eq_self_iff hbound hfrozen hrange]
      simp [hnotes]
    · have hn : n ∈ identity := by
        by_contra hn
        exact hnotes (notes_of_notMem hn)
      refine ⟨fun heq => ?_, fun h => ?_⟩
      · exact absurd heq (meet_ne_self hbound hfrozen hnotes (htype hn) (hproper hn) hnow row)
      · rcases h with h | h
        · cases h
        · exact absurd h.1 hnotes

theorem isBound_meet (o : Occasion) (n : String) (t : ItemTemplate)
    (handle : Option TemplateHandle) (row : Option Row) (item : Item) :
    (o.meet n t handle row item).IsBound t handle :=
  Item.isBound_bind _ t handle

theorem refit_fill (o : Occasion) (n : String) (item : Item) : item.Refit (o.fill n item) := by
  unfold fill
  split_ifs
  · exact Item.refit_setIfFits item _ _
  · exact .refl item

theorem refit_meet (o : Occasion) (n : String) (t : ItemTemplate)
    (handle : Option TemplateHandle) (row : Option Row) (item : Item) :
    item.Refit (o.meet n t handle row item) :=
  (o.refit_fill n item).trans (Item.refit_turn _ t handle _ _)

theorem isProper_meet (hproper : item.IsProper) (hnow : o.now.IsProper) (t : ItemTemplate)
    (handle : Option TemplateHandle) (row : Option Row) : (o.meet n t handle row item).IsProper :=
  (isProper_fill hproper hnow).turn hnow t handle _

/-- What is known is noted in an item that is met, or else the item was set before. -/
theorem notes_fill_or (htype : n ∈ identity → item.type = .string) :
    o.Notes n (o.fill n item) ∨ (o.fill n item).lastSet.isSome = true := by
  by_cases hnotes : o.Notes n item
  · rw [fill_of_notes hnotes]
    exact .inl hnotes
  · have hn : n ∈ identity := by
      by_contra hn
      exact hnotes (notes_of_notMem hn)
    refine .inr ?_
    rw [(fill_of_not_notes hnotes (htype hn)).1]
    cases hfrozen : item.isFrozen with
    | true =>
      rw [Item.put_of_isFrozen hfrozen]
      exact (Bool.and_eq_true_iff.mp hfrozen).2
    | false =>
      rw [Item.lastSet_put hfrozen]
      rfl

/-- What is known is filled in once. -/
theorem fill_fill (htype : n ∈ identity → item.type = .string) :
    o.fill n (o.fill n item) = o.fill n item := by
  by_cases hnotes : o.Notes n item
  · rw [fill_of_notes hnotes, fill_of_notes hnotes]
  · have hn : n ∈ identity := by
      by_contra hn
      exact hnotes (notes_of_notMem hn)
    cases hfrozen : item.isFrozen with
    | true => rw [fill_of_isFrozen hfrozen, fill_of_isFrozen hfrozen]
    | false =>
      obtain ⟨hfill, hholds⟩ := fill_of_not_notes hnotes (htype hn)
      refine fill_of_notes fun hempty => ?_
      rw [hfill, Item.text, Item.value_put hfrozen hholds] at hempty
      exact hempty

/-- **A static template leaves the item alone the second time.** -/
theorem meet_meet_of_isStatic (ht : t.isStatic = true)
    (htype : n ∈ identity → item.type = .string)
    (hrange : (o.meet n t handle row item).stampInRange = true)
    (hproper : n ∈ identity → (o.meet n t handle row item).IsProper) (hnow : o.now.IsProper) :
    o.meet n t handle (rowFor n (some (o.fill n item)) row) (o.meet n t handle row item) =
      o.meet n t handle row item := by
  rw [meet_eq_self_iff (o.isBound_meet n t handle row item) hrange
    (fun hn => (o.refit_meet n t handle row item).type.trans (htype hn)) hproper hnow]
  rcases Item.isFrozen_or_isSettled_turn ht (o.fill n item) handle
    (rowFor n (some (o.fill n item)) row) o.now with hfrozen | ⟨heq, hsettled⟩
  · exact .inl hfrozen
  · change o.meet n t handle row item = (o.fill n item).bind t handle at heq
    cases hfrozen : (o.meet n t handle row item).isFrozen with
    | true => exact .inl rfl
    | false =>
      -- The item was bound and nothing else, so that it is met in the same way.
      refine .inr ⟨?_, ?_⟩
      · rcases notes_fill_or htype with hnotes | hset
        · rw [heq]
          exact hnotes
        · rw [heq] at hfrozen
          have hbind : ((o.fill n item).bind t handle).isFrozen =
              (t.isStatic && (o.fill n item).lastSet.isSome) := rfl
          rw [hbind, ht, hset] at hfrozen
          cases hfrozen
      · have hrow : Row.ofItem? (o.meet n t handle row item) = Row.ofItem? (o.fill n item) := by
          rw [heq]
          rfl
        have hrows : rowFor n (some (o.meet n t handle row item))
            (rowFor n (some (o.fill n item)) row) = rowFor n (some (o.fill n item)) row := by
          unfold rowFor
          split_ifs
          · rw [Option.bind_some, Option.bind_some, hrow, ← Option.or_assoc, Option.or_self]
          · rfl
        rw [hrows]
        exact hsettled

/-- **A template that is not static leaves an item alone the second time**, unless the item is frozen
and holds something else than it is offered. -/
theorem meet_meet_iff (ht : t.isStatic = false) (hn : n ∉ identity)
    (hrange : (o.meet n t handle row item).stampInRange = true) :
    o.meet n t handle (rowFor n (some (o.fill n item)) row) (o.meet n t handle row item) =
        o.meet n t handle row item ↔
      (item.isFrozen = true → ∀ w, t.offer? item.type row = some w → item.holds w = true) := by
  have hbound := o.isBound_meet n t handle row item
  have hfrozen : (o.meet n t handle row item).isFrozen = false := by
    rw [Item.isFrozen, ← hbound.isStatic_eq, ht, Bool.false_and]
  have hrow : ∀ i, rowFor n i row = row := fun i => if_neg hn
  have hmeet : ∀ i, o.meet n t handle row i = i.turn t handle row o.now := fun i => by
    rw [meet, fill_of_notes (notes_of_notMem hn), hrow]
  rw [hmeet] at hrange hfrozen hbound ⊢
  rw [hrow, hmeet, Item.turn_eq_self_iff hbound hfrozen hrange]
  exact Item.isSettled_turn_iff ht hrange

end Premises.Occasion

end ZigbeeGateway
