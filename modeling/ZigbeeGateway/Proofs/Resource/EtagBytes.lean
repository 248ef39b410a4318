import ZigbeeGateway.Proofs.Json.Printer
import ZigbeeGateway.Proofs.Text.Integer
import ZigbeeGateway.Resource.Basic

/-!
# What an ETag stands for

The bytes that are hashed for an ETag can be taken apart again.  The revision fills its first eight
bytes.  Behind it every public item has two fields, its suffix and the JSON text of its value, each
closed by a zero byte.  In UTF-8 only the null character has a zero byte; printed JSON has no control
character at all, so the zero byte behind a value is the first one; and since nothing is printed as
nothing, an empty field means that there is no value.  So two resources have the same bytes just if
they agree in the revision and in what their public items show, and an ETag stands for both up to
collisions of the hash (`etagBytes_decodable`).
-/

namespace ZigbeeGateway

/-- Two texts, each closed by a mark that it does not contain, are told apart whatever follows. -/
theorem append_mark_inj {α : Type*} {mark : α} {s t rest rest' : List α} (hs : mark ∉ s)
    (ht : mark ∉ t) : s ++ mark :: rest = t ++ mark :: rest' ↔ s = t ∧ rest = rest' := by
  constructor
  · intro h
    -- Were one text longer, it would have the mark that closes the other one.
    rcases List.append_eq_append_iff.mp h with ⟨more, rfl, hmore⟩ | ⟨more, rfl, hmore⟩
    · cases more with
      | nil => exact ⟨(List.append_nil s).symm, (List.cons.inj hmore).2⟩
      | cons c more =>
        obtain rfl := (List.cons.inj hmore).1
        exact absurd (List.mem_append_right s List.mem_cons_self) ht
    · cases more with
      | nil => exact ⟨List.append_nil t, (List.cons.inj hmore).2.symm⟩
      | cons c more =>
        obtain rfl := (List.cons.inj hmore).1
        exact absurd (List.mem_append_right t List.mem_cons_self) hs
  · rintro ⟨rfl, rfl⟩
    rfl

/-! ### Codes of one width -/

section Codes

variable {α β : Type*} {code : α → List β} {width : ℕ}

/-- Lists are told apart by their codes, if single elements are and no code is longer than another. -/
theorem flatMap_injective_of_length (hwidth : 0 < width) (hlength : ∀ a, (code a).length = width)
    (hcode : Function.Injective code) : Function.Injective (List.flatMap code) := by
  -- A code is not empty, so the end of the list is seen.
  have hne : ∀ a s, code a ++ s ≠ [] := by
    intro a s h
    have hnil := congrArg List.length (List.append_eq_nil_iff.mp h).1
    rw [hlength, List.length_nil] at hnil
    omega
  intro l
  induction l with
  | nil =>
    intro l' h
    cases l' with
    | nil => rfl
    | cons a' l' => exact absurd h.symm (hne a' _)
  | cons a l ih =>
    intro l' h
    cases l' with
    | nil => exact absurd h (hne a _)
    | cons a' l' =>
      rw [List.flatMap_cons, List.flatMap_cons] at h
      obtain ⟨hfirst, hrest⟩ := List.append_inj h (by rw [hlength, hlength])
      rw [hcode hfirst, ih hrest]

/-- The first codes are those of the first elements. -/
theorem take_flatMap_of_length (hlength : ∀ a, (code a).length = width) (count : ℕ) (l : List α) :
    (l.flatMap code).take (width * count) = (l.take count).flatMap code := by
  induction l generalizing count with
  | nil => simp
  | cons a l ih =>
    cases count with
    | zero => simp
    | succ count =>
      have hmore : width * (count + 1) - (code a).length = width * count := by
        rw [hlength, Nat.mul_succ, Nat.add_sub_cancel]
      have hfirst : (code a).take (width * (count + 1)) = code a := by
        refine List.take_of_length_le ?_
        rw [hlength, Nat.mul_succ]
        exact Nat.le_add_left _ _
      rw [List.flatMap_cons, List.take_append, hmore, hfirst, ih, List.take_succ_cons,
        List.flatMap_cons]

end Codes

namespace Sha256

variable {count m n : ℕ}

theorem length_bigEndian (count n : ℕ) : (bigEndian count n).length = count := by
  simp [bigEndian]

/-- The bytes are the low digits of the number in base 256. -/
theorem ofDigits_bigEndian (count n : ℕ) :
    Nat.ofDigits 256 ((bigEndian count n).reverse.map UInt8.toNat) = n % 256 ^ count := by
  rw [← ofDigits_map_range, bigEndian, ← List.map_reverse, List.reverse_reverse, List.map_map]
  refine congrArg _ (List.map_congr_left fun i _ => ?_)
  exact UInt8.toNat_ofNat'

/-- **Numbers that fit are told apart by their bytes.** -/
theorem bigEndian_inj (hm : m < 256 ^ count) (hn : n < 256 ^ count) :
    bigEndian count m = bigEndian count n ↔ m = n := by
  constructor
  · intro h
    have hvalue := ofDigits_bigEndian count m
    rw [h, ofDigits_bigEndian, Nat.mod_eq_of_lt hm, Nat.mod_eq_of_lt hn] at hvalue
    exact hvalue.symm
  · rintro rfl
    rfl

end Sha256

namespace Resource

variable {s t : List Char} {rest rest' : List UInt8}

/-! ### Texts in UTF-8 -/

theorem utf8_injective : Function.Injective utf8 := by
  intro s t h
  have hbytes : (String.ofList s).toByteArray = (String.ofList t).toByteArray := by
    rw [String.toByteArray_ofList, String.toByteArray_ofList]
    exact congrArg List.toByteArray h
  exact String.ofList_injective (String.toByteArray_inj.mp hbytes)

/-- Only the null character has a zero byte: the bytes of all other characters are the number of one
of the 127 characters behind it, or have their highest bit set. -/
theorem eq_null_of_zero_mem {c : Char} (h : 0 ∈ String.utf8EncodeChar c) : c = '\x00' := by
  have hzero : ∀ k, (0 : UInt8) = UInt8.ofNat k ↔ k % 256 = 0 := by
    intro k
    rw [← UInt8.toNat_inj, UInt8.toNat_ofNat']
    exact eq_comm
  have hcode : c.val.toNat = 0 := by
    unfold String.utf8EncodeChar at h
    dsimp only at h
    split_ifs at h
    all_goals
      simp only [List.mem_cons, List.not_mem_nil, or_false, hzero] at h
      omega
  rw [← Char.ofNat_toNat c, ← Char.toNat_val, hcode]

theorem zero_notMem_utf8 (h : '\x00' ∉ s) : 0 ∉ utf8 s := by
  intro hzero
  obtain ⟨c, hc, hbyte⟩ := List.mem_flatMap.mp hzero
  exact h (eq_null_of_zero_mem hbyte ▸ hc)

theorem utf8_ne_nil (h : s ≠ []) : utf8 s ≠ [] :=
  fun hnil => h (utf8_injective hnil)

/-! ### Items -/

/-- What an item shows: its suffix, and the JSON text of its value if there is one. -/
def itemText (i : Item) : String × Option (List Char) :=
  (i.suffix, i.value.map fun v => v.toJson.text)

/-- What is hashed of a value; nothing if there is none. -/
def valueBytes (v : Option Value) : List UInt8 :=
  (v.map fun v => utf8 v.toJson.text).getD []

theorem zero_notMem_valueBytes (v : Option Value) : 0 ∉ valueBytes v := by
  cases v with
  | none => exact List.not_mem_nil
  | some v =>
    refine zero_notMem_utf8 fun hnull => ?_
    have hvisible := v.toJson.isPlain_text _ hnull
    exact absurd hvisible (by decide)

/-- **Values are told apart as far as their JSON texts are**, and from no value. -/
theorem valueBytes_inj {v w : Option Value} :
    valueBytes v = valueBytes w ↔
      (v.map fun v => v.toJson.text) = w.map fun v => v.toJson.text := by
  cases v with
  | none =>
    cases w with
    | none => simp
    | some w =>
      have hne : utf8 w.toJson.text ≠ [] := utf8_ne_nil w.toJson.text_ne_nil
      simp [valueBytes, hne.symm]
  | some v =>
    cases w with
    | none =>
      have hne : utf8 v.toJson.text ≠ [] := utf8_ne_nil v.toJson.text_ne_nil
      simp [valueBytes, hne]
    | some w => simp [valueBytes, utf8_injective.eq_iff]

theorem itemBytes_append_ne_nil (i : Item) (rest : List UInt8) : itemBytes i ++ rest ≠ [] := by
  simp [itemBytes]

/-- **An item is told from any other by the bytes that begin with it**, whatever follows. -/
theorem itemBytes_append_inj {i j : Item} (hi : '\x00' ∉ i.suffix.toList)
    (hj : '\x00' ∉ j.suffix.toList) :
    itemBytes i ++ rest = itemBytes j ++ rest' ↔ itemText i = itemText j ∧ rest = rest' := by
  have hfields : ∀ (i : Item) (rest : List UInt8), itemBytes i ++ rest =
      utf8 i.suffix.toList ++ 0 :: (valueBytes i.value ++ 0 :: rest) := by
    intro i rest
    simp [itemBytes, valueBytes]
  rw [hfields, hfields, append_mark_inj (zero_notMem_utf8 hi) (zero_notMem_utf8 hj),
    append_mark_inj (zero_notMem_valueBytes _) (zero_notMem_valueBytes _), valueBytes_inj,
    utf8_injective.eq_iff, String.toList_inj, itemText, itemText, Prod.mk.injEq, and_assoc]

theorem flatMap_itemBytes_inj {l l' : List Item} (hl : ∀ i ∈ l, '\x00' ∉ i.suffix.toList)
    (hl' : ∀ i ∈ l', '\x00' ∉ i.suffix.toList) :
    l.flatMap itemBytes = l'.flatMap itemBytes ↔ l.map itemText = l'.map itemText := by
  -- The first items are told apart by what the bytes begin with, and then there are fewer.
  induction l generalizing l' with
  | nil =>
    cases l' with
    | nil => simp
    | cons j l' =>
      have hne := (itemBytes_append_ne_nil j (l'.flatMap itemBytes)).symm
      simp [hne]
  | cons i l ih =>
    cases l' with
    | nil =>
      have hne := itemBytes_append_ne_nil i (l.flatMap itemBytes)
      simp [hne]
    | cons j l' =>
      rw [List.forall_mem_cons] at hl hl'
      rw [List.flatMap_cons, List.flatMap_cons, itemBytes_append_inj hl.1 hl'.1, ih hl.2 hl'.2,
        List.map_cons, List.map_cons, List.cons.injEq]

/-! ### ETags -/

/-- What the public items show, in order. -/
def publicTexts (r : Resource) : List (String × Option (List Char)) :=
  r.publicItems.map itemText

/-- The part of the hash that an ETag shows, two digits for each byte. -/
def shownDigest (bytes : List UInt8) : List UInt8 :=
  (Sha256.digest bytes).take (etagLength / 2)

/-- Whether different bytes share the part of the hash that an ETag shows. -/
def Collide (bytes bytes' : List UInt8) : Prop :=
  bytes ≠ bytes' ∧ shownDigest bytes = shownDigest bytes'

/-- The digits of an ETag are read back. -/
theorem computeEtag_eq_iff {r r' : Resource} :
    r.computeEtag = r'.computeEtag ↔ shownDigest r.etagBytes = shownDigest r'.etagBytes := by
  have hlength : ∀ b : UInt8, (Text.padded 16 2 b.toNat).length = 2 := fun b =>
    Text.length_padded (by omega) (by omega) b.toNat_lt
  have hdigits : Function.Injective fun b : UInt8 => Text.padded 16 2 b.toNat := fun b b' h =>
    UInt8.toNat_inj.mp (Text.padded_injective (by omega) (by omega) h)
  have hetag : ∀ r : Resource, r.computeEtag =
      String.ofList ((shownDigest r.etagBytes).flatMap fun b => Text.padded 16 2 b.toNat) := by
    intro r
    rw [shownDigest, ← take_flatMap_of_length hlength]
    rfl
  rw [hetag, hetag, String.ofList_inj,
    (flatMap_injective_of_length (by omega) hlength hdigits).eq_iff]

/-- **The bytes of an ETag can be taken apart again.**  If no null character stands in a public suffix,
two resources have the same bytes just if they have the same revision, which counts in 64 bits, and
the same public items, in the same order and as far as the JSON texts of their values tell them apart.
So their ETags are equal just if all this is the same, or if the hash of different bytes collides. -/
theorem etagBytes_decodable (r r' : Resource) (hr : r.revision < 2 ^ 64)
    (hr' : r'.revision < 2 ^ 64)
    (hs : ∀ i ∈ r.publicItems, '\x00' ∉ i.suffix.toList)
    (hs' : ∀ i ∈ r'.publicItems, '\x00' ∉ i.suffix.toList) :
    (r.etagBytes = r'.etagBytes ↔ r.revision = r'.revision ∧ r.publicTexts = r'.publicTexts) ∧
      (r.computeEtag = r'.computeEtag ↔
        r.revision = r'.revision ∧ r.publicTexts = r'.publicTexts ∨
          Collide r.etagBytes r'.etagBytes) := by
  -- The revision has a fixed width, so the items begin at the same byte in both.
  have hbytes : r.etagBytes = r'.etagBytes ↔
      r.revision = r'.revision ∧ r.publicTexts = r'.publicTexts := by
    have hrevision := Sha256.bigEndian_inj (show r.revision < 256 ^ 8 from hr)
      (show r'.revision < 256 ^ 8 from hr')
    unfold etagBytes publicTexts
    rw [← hrevision, ← flatMap_itemBytes_inj hs hs']
    constructor
    · intro h
      exact List.append_inj h (by rw [Sha256.length_bigEndian, Sha256.length_bigEndian])
    · rintro ⟨hrevision, hitems⟩
      rw [hrevision, hitems]
  refine ⟨hbytes, ?_⟩
  rw [computeEtag_eq_iff, ← hbytes, Collide]
  by_cases h : r.etagBytes = r'.etagBytes
  · simp [h]
  · simp [h]

/-- A device that shows the name of its model. -/
def modelled (model : Option Value) : Resource where
  id := ⟨0⟩
  kind := .devices
  typeName := "ZHADevice"
  uniqueId := ⟨""⟩
  items := [{ suffix := Suffix.modelId, type := .string, value := model }]

/-- An empty name is told from a missing one: its quotes are hashed. -/
theorem missing_told_from_empty :
    (∀ i ∈ (modelled none).publicItems, '\x00' ∉ i.suffix.toList) ∧
      (∀ i ∈ (modelled (some (.text ""))).publicItems, '\x00' ∉ i.suffix.toList) ∧
      (modelled none).etagBytes ≠ (modelled (some (.text ""))).etagBytes := by
  have hsuffix : ∀ model, ∀ i ∈ (modelled model).publicItems, '\x00' ∉ i.suffix.toList := by
    intro model i hi
    obtain rfl := List.mem_singleton.mp hi
    show '\x00' ∉ Suffix.modelId.toList
    decide
  have hdecodable := etagBytes_decodable (modelled none) (modelled (some (.text "")))
    (by decide) (by decide) (hsuffix _) (hsuffix _)
  refine ⟨hsuffix _, hsuffix _, fun hbytes => ?_⟩
  have htexts := (hdecodable.1.mp hbytes).2
  exact absurd htexts (by decide)

end Resource

end ZigbeeGateway
