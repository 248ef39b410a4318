import ZigbeeGateway.Proofs.KeyedList
import ZigbeeGateway.Proofs.Resource.Soundness
import ZigbeeGateway.Proofs.Resource.Stamps
import ZigbeeGateway.Proofs.Value.Stored

/-!
# Rows read back from storage

The row of an item is written as a JSON object and read back, whatever the order of its members
(`Row.read?_text`); restoring it into a fresh item gives the value and both stamps back exactly if the
value survives storage and the item was not set in a leap second, which has no milliseconds of its own
(`restored_iff_survives`).
-/

namespace ZigbeeGateway

open Json

/-! ### Stamps -/

namespace Instant

variable {t : Instant}

/-- A stamp outside leap seconds is kept up to its milliseconds, and one inside a leap second is not. -/
theorem ofMillis?_toMillis_iff (hrange : t.inRange = true) (hproper : t.IsProper) :
    ofMillis? t.toMillis = some t.truncToMillis ↔ t.nanos < nanosPerSecond := by
  obtain ⟨seconds, nanos⟩ := t
  unfold IsProper nanosPerSecond at hproper
  dsimp only at hproper
  unfold ofMillis? toMillis truncToMillis nanosPerSecond
  dsimp only
  constructor
  · -- A leap second counts into the next second, so it does not come back as it was.
    intro h
    split_ifs at h
    have hseconds := congrArg Instant.seconds (Option.some.inj h)
    dsimp only at hseconds
    omega
  · intro hlt
    have hseconds : (seconds * 1000 + (nanos / 1000000 : Nat)) / 1000 = seconds := by omega
    have hnanos : ((seconds * 1000 + (nanos / 1000000 : Nat)) % 1000).toNat * 1000000 =
        nanos - nanos % 1000000 := by omega
    rw [hseconds, hnanos]
    exact if_pos hrange

/-- Instants have 64-bit milliseconds. -/
theorem toMillis_range (hrange : t.inRange = true) (hproper : t.IsProper) :
    -2 ^ 63 ≤ t.toMillis ∧ t.toMillis ≤ 2 ^ 63 - 1 := by
  have hfirst : (Time.Date.mk firstYear 1 1).toDays * secondsPerDay = -8334601228800 := by decide
  have hlast : (Time.Date.mk (lastYear + 1) 1 1).toDays * secondsPerDay = 8210266876800 := by decide
  unfold IsProper nanosPerSecond at hproper
  simp only [inRange, hfirst, hlast, Bool.and_eq_true, decide_eq_true_eq] at hrange
  unfold toMillis
  omega

end Instant

/-! ### Records -/

/-- The record that the fields of an object are printed as. -/
def Json.writtenRecord (fields : Fields) : Record :=
  fields.map fun (name, value) => (name, value.written)

theorem Json.map_fst_writtenRecord (fields : Fields) :
    (writtenRecord fields).map Prod.fst = fields.map Prod.fst := by
  rw [writtenRecord, List.map_map]
  rfl

/-- Every printed member has a name. -/
theorem Json.mapM_writtenFields {named? : Option String × Document → Option (String × Document)}
    (hnamed : ∀ name d, named? (some name, d) = some (name, d)) (fields : Fields) :
    (writtenFields fields).mapM named? = some (writtenRecord fields) := by
  induction fields with
  | nil => rfl
  | cons field rest ih =>
    rw [writtenFields, List.mapM_cons, ih, hnamed]
    rfl

/-- A record is read from an object whose names are distinct and all known. -/
theorem Json.Document.record?_writtenFields {names : List String} {fields : Fields}
    (hknown : ∀ name ∈ fields.map Prod.fst, name ∈ names) (hnodup : (fields.map Prod.fst).Nodup) :
    (Document.object (writtenFields fields)).record? names = some (writtenRecord fields) := by
  have hall : ∀ entry ∈ writtenRecord fields, names.contains entry.1 = true := by
    intro entry hentry
    obtain ⟨field, hfield, rfl⟩ := List.mem_map.mp hentry
    exact List.contains_iff_mem.mpr (hknown _ (List.mem_map_of_mem hfield))
  dsimp only [record?]
  rw [mapM_writtenFields fun _ _ => rfl]
  dsimp only [Option.bind_eq_bind, Option.bind_some]
  rw [List.filter_eq_self.mpr hall, map_fst_writtenRecord, if_pos hnodup]

/-- Each of distinct names has its own value. -/
theorem Json.Record.required?_writtenRecord {α : Type} {fields : Fields}
    (hnodup : (fields.map Prod.fst).Nodup) {name : String} {value : Json}
    (hmem : (name, value) ∈ fields) (read : Document → Option α) :
    (writtenRecord fields).required? name read = read value.written := by
  have hlookup : (writtenRecord fields).lookup name = some value.written :=
    lookup_of_mem (by rw [map_fst_writtenRecord]; exact hnodup) (List.mem_map_of_mem hmem)
  rw [required?, hlookup, Option.bind_some]

/-! ### Rows -/

namespace Row

/-- The members of a row in the order of their names. -/
theorem toJson_eq_object (r : Row) :
    r.toJson = .object
      [("suffix", .string r.suffix), ("timestamp_ms", .integer r.millis),
        ("value", r.value.toStored)] :=
  rfl

/-- **A row is read from its members in any order**, if its value can be read. -/
theorem read?_text {r : Row} {fields : Fields} {sorted : Fields} (hsorted : r.toJson = .object sorted)
    (hfields : fields.Perm sorted) (hlow : -2 ^ 63 ≤ r.millis) (hhigh : r.millis ≤ 2 ^ 63 - 1) :
    read? (String.ofList (Json.text (.object fields))) =
      (Value.ofStored? r.value.toStored.written).map fun v => { r with value := v } := by
  obtain rfl := (Json.object.inj ((toJson_eq_object r).symm.trans hsorted)).symm
  -- In any order the object has the three names of a row, each of them once.
  have hnames : (fields.map Prod.fst).Perm ["suffix", "timestamp_ms", "value"] :=
    hfields.map Prod.fst
  have hnodup : (fields.map Prod.fst).Nodup := hnames.nodup_iff.mpr (by decide)
  have hknown : ∀ name ∈ fields.map Prod.fst, name ∈ ["suffix", "value", "timestamp_ms"] := by
    intro name hname
    have hmem := hnames.mem_iff.mp hname
    simp only [List.mem_cons, List.not_mem_nil, or_false] at hmem ⊢
    rcases hmem with rfl | rfl | rfl <;> simp
  have hmillis : Document.integer? (-2 ^ 63) (2 ^ 63 - 1) (Json.integer r.millis).written =
      some r.millis := by
    rw [written, Document.integer?, Numeral.value?_ofInteger hlow (by omega)]
    exact if_pos ⟨hlow, hhigh⟩
  have hsuffix : ("suffix", Json.string r.suffix) ∈ fields := hfields.mem_iff.mpr (by simp)
  have htime : ("timestamp_ms", Json.integer r.millis) ∈ fields := hfields.mem_iff.mpr (by simp)
  have hvalue : ("value", r.value.toStored) ∈ fields := hfields.mem_iff.mpr (by simp)
  rw [read?, Document.read?_text, Option.bind_some, written, ofDocument?,
    Document.record?_writtenFields hknown hnodup]
  dsimp only [Option.bind_eq_bind, Option.bind_some]
  rw [Record.required?_writtenRecord hnodup hsuffix, Record.required?_writtenRecord hnodup hvalue,
    Record.required?_writtenRecord hnodup htime, hmillis]
  cases Value.ofStored? r.value.toStored.written <;> rfl

/-- A fresh item takes the value and the time of a row. -/
theorem restore?_fresh {r : Row} {fresh : Item} (hvalue : fresh.value = none)
    (hset : fresh.lastSet = none) (restored : Item) :
    r.restore? fresh = some restored ↔
      ∃ t w, Instant.ofMillis? r.millis = some t ∧ fresh.type.coerce r.value = .ok w ∧
        restored = { fresh with
          value := some w, lastSet := some t, lastChanged := some t, needPush := true } := by
  have hfits : ∀ w t, fresh.type.coerce r.value = .ok w → fresh.set r.value t =
      .ok ({ fresh with
        value := some w, lastSet := some t, lastChanged := some t, needPush := true }, .changed) := by
    intro w t hw
    simp [Item.set, hw, hset, Item.holds, hvalue, Item.nextStamp]
  rw [restore?_eq_some_iff]
  constructor
  · rintro ⟨t, set, o, htime, hresult, rfl⟩
    obtain ⟨w, hw, -⟩ := Item.set_cases hresult
    rw [hfits w t hw] at hresult
    obtain ⟨rfl, -⟩ := Prod.mk.inj (Except.ok.inj hresult)
    refine ⟨t, w, htime, hw, ?_⟩
    split_ifs <;> rfl
  · rintro ⟨t, w, htime, hw, rfl⟩
    refine ⟨t, _, _, htime, hfits w t hw, ?_⟩
    split_ifs <;> rfl

end Row

/-- **A row brings an item back exactly if its value survives storage and it was not set in a leap
second.**  The row is written in any order of its members and restored into an item that was never
set; the stamps come back up to their milliseconds.  Real numbers with short decimals survive. -/
theorem restored_iff_survives {item fresh : Item} {v : Value} {t : Instant} (hitem : item.IsFitted)
    (hvalue : item.value = some v) (htime : ∀ instant, v = .time instant → instant.Occurs)
    (hset : item.lastSet = some t) (hrange : t.inRange = true) (hproper : t.IsProper)
    (hfresh : fresh.type = item.type) (hunset : fresh.value = none) (hnever : fresh.lastSet = none) :
    (∃ row sorted, Row.ofItem? item = some row ∧ row.toJson = .object sorted ∧
      ∀ fields, fields.Perm sorted →
        ((∃ restored, (Row.read? (String.ofList (Json.text (.object fields)))).bind
            (·.restore? fresh) = some restored ∧ restored.value = some v ∧
            restored.lastSet = some t.truncToMillis ∧ restored.lastChanged = some t.truncToMillis) ↔
          v.SurvivesStorage ∧ t.nanos < Instant.nanosPerSecond)) ∧
      ∀ negative rank, v = .real (.finite negative rank) →
        (Binary64.shortest .even rank).IsShort → v.SurvivesStorage := by
  have hfits := hitem v hvalue
  have hstamp := Instant.ofMillis?_toMillis_iff hrange hproper
  obtain ⟨hlow, hhigh⟩ := Instant.toMillis_range hrange hproper
  have hrow : Row.ofItem? item = some ⟨item.suffix, v, t.toMillis⟩ := by
    rw [Row.ofItem?, hvalue, hset]
    rfl
  refine ⟨⟨_, _, hrow, Row.toJson_eq_object _, fun fields hfields => ?_⟩, ?_⟩
  · rw [Row.read?_text (Row.toJson_eq_object _) hfields hlow hhigh,
      ← DataType.coerce_ofStored?_iff hfits htime, ← hstamp]
    -- A fresh item takes the row exactly if both the value and the stamp come back.
    constructor
    · rintro ⟨restored, hrestored, hv, hlast, -⟩
      obtain ⟨back, hback, hrestore⟩ := Option.bind_eq_some_iff.mp hrestored
      obtain ⟨w, hw, rfl⟩ := Option.map_eq_some_iff.mp hback
      obtain ⟨t', w', ht', hw', rfl⟩ := (Row.restore?_fresh hunset hnever restored).mp hrestore
      obtain rfl := Option.some.inj hv
      obtain rfl := Option.some.inj hlast
      exact ⟨⟨w, hw, hfresh ▸ hw'⟩, ht'⟩
    · rintro ⟨⟨w, hw, hw'⟩, ht'⟩
      refine ⟨_, Option.bind_eq_some_iff.mpr ⟨_, Option.map_eq_some_iff.mpr ⟨w, hw, rfl⟩,
        (Row.restore?_fresh hunset hnever _).mpr ⟨_, _, ht', ?_, rfl⟩⟩, rfl, rfl, rfl⟩
      rw [hfresh]
      exact hw'
  · rintro negative rank rfl hshort
    exact Json.read?_realText_of_short negative rank hshort

/-- An item that holds a time in the leap second at the end of 2016. -/
def leapSecondHeld : Item where
  suffix := "state/lastupdated"
  type := .time
  value := some (.time ⟨1483228799, 1500000000⟩)
  lastSet := some ⟨1704067200, 123456789⟩
  lastChanged := some ⟨1704067200, 123456789⟩

theorem leap_second_restored :
    leapSecondHeld.IsFitted ∧ (Instant.mk 1483228799 1500000000).Occurs ∧
      (Instant.mk 1704067200 123456789).inRange = true ∧
      (Instant.mk 1704067200 123456789).IsProper ∧
      ∃ row restored, Row.ofItem? leapSecondHeld = some row ∧
        (Row.read? (String.ofList row.toJson.text)).bind
          (·.restore? { suffix := "state/lastupdated", type := .time }) = some restored ∧
        restored.value = leapSecondHeld.value ∧
        restored.lastSet = some ⟨1704067200, 123000000⟩ ∧
        restored.lastChanged = some ⟨1704067200, 123000000⟩ := by
  have hfitted : leapSecondHeld.IsFitted := by
    rintro w hw
    obtain rfl := Option.some.inj hw
    rfl
  have hoccurs : (Instant.mk 1483228799 1500000000).Occurs := ⟨by decide, by decide, by decide⟩
  have hrange : (Instant.mk 1704067200 123456789).inRange = true := by decide
  have hproper : (Instant.mk 1704067200 123456789).IsProper := by decide
  have hheld : ∀ instant, Value.time ⟨1483228799, 1500000000⟩ = .time instant → instant.Occurs := by
    rintro instant hinstant
    obtain rfl := Value.time.inj hinstant
    exact hoccurs
  have hyear : (Instant.mk 1483228799 1500000000).HasPlainYear := by decide
  obtain ⟨row, sorted, hrow, hsorted, hrestored⟩ :=
    (@restored_iff_survives leapSecondHeld { suffix := "state/lastupdated", type := .time } _ _
      hfitted rfl hheld rfl hrange hproper rfl rfl rfl).1
  obtain ⟨restored, hback, hvalue, hlast, hchanged⟩ :=
    (hrestored sorted (.refl sorted)).mpr ⟨hyear, by decide⟩
  exact ⟨hfitted, hoccurs, hrange, hproper, row, restored, hrow, by rw [hsorted]; exact hback, hvalue,
    hlast, hchanged⟩

/-- The first instant of the year 10000 is stored with a sign in front of the year and cannot be
restored.  The greatest number below `2 ^ 53` is stored with a zero behind the point and comes back as
its neighbour, since ten times the number is not exact. -/
theorem great_values_not_restored :
    DataType.time.coerce (.time ⟨253402300800, 0⟩) = .ok (.time ⟨253402300800, 0⟩) ∧
      (Row.read? (String.ofList (Row.toJson ⟨"state/x", .time ⟨253402300800, 0⟩, 0⟩).text)).bind
        (·.restore? { suffix := "state/x", type := .time }) = none ∧
      DataType.real.coerce (.real (.ofInt 9007199254740991)) =
        .ok (.real (.ofInt 9007199254740991)) ∧
      ((Row.read? (String.ofList
          (Row.toJson ⟨"state/x", .real (.ofInt 9007199254740991), 0⟩).text)).bind
        (·.restore? { suffix := "state/x", type := .real })).map Item.value =
          some (some (.real (.ofInt 9007199254740990))) := by
  refine ⟨?_, ?_, ?_, ?_⟩
  · decide +kernel
  · decide +kernel
  · decide +kernel
  · decide +kernel

end ZigbeeGateway
