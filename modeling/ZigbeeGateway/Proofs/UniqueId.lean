import Mathlib.Data.List.TakeWhile
import ZigbeeGateway.Proofs.Storage
import ZigbeeGateway.Proofs.Text.Integer

/-!
# Unique ids read back

The written form of an address has one width and is read back (`ExtAddress.readChars_chars`), so one
address is told from another by the first characters of a text (`ExtAddress.append_chars_inj`).  Behind
the address a generated id has nothing, or a dash and its part.  The parts of an id are read back one
after the other: the address, the endpoint and the cluster.  Hence no two triples share an id, and the
id of a node is the beginning of the ids of its own parts and of no others
(`UniqueId.generate_reads_back`).
-/

namespace ZigbeeGateway

/-! ### Addresses -/

/-- Leaving out the separators of a list of texts that do not contain them leaves the texts. -/
theorem filter_intercalate {separator : Char} {texts : List (List Char)}
    (h : ∀ s ∈ texts, ∀ c ∈ s, c ≠ separator) :
    ([separator].intercalate texts).filter (· ≠ separator) = texts.flatten := by
  have hself : ∀ s ∈ texts, s.filter (· ≠ separator) = s := by
    intro s hs
    rw [List.filter_eq_self]
    intro c hc
    exact decide_eq_true (h s hs c hc)
  induction texts with
  | nil => rfl
  | cons s texts ih =>
    have ih := ih (fun s' hs' => h s' (List.mem_cons_of_mem s hs'))
      (fun s' hs' => hself s' (List.mem_cons_of_mem s hs'))
    -- A separator stands between two texts, so the last one is a case of its own.
    cases texts with
    | nil => simpa [List.intercalate] using hself s List.mem_cons_self
    | cons s' texts =>
      have hcons : [separator].intercalate (s :: s' :: texts) =
          s ++ separator :: [separator].intercalate (s' :: texts) := by
        simp [List.intercalate]
      rw [hcons, List.filter_append, hself s List.mem_cons_self, List.filter_cons_of_neg (by simp),
        ih]
      rfl

namespace ExtAddress

open Text

variable {a b : ExtAddress} {s t : List Char}

theorem lt_of_mem_bytes {n : Nat} (h : n ∈ a.bytes) : n < 256 := by
  unfold bytes at h
  obtain ⟨i, -, rfl⟩ := List.mem_map.mp h
  exact Nat.mod_lt _ (by omega)

/-- The bytes are the digits of the address in base 256. -/
theorem ofDigits_bytes (a : ExtAddress) : Nat.ofDigits 256 a.bytes.reverse = a.value.toNat := by
  have hlt := a.value.toNat_lt
  have h := ofDigits_map_range 256 a.value.toNat 8
  rw [bytes, List.map_reverse, List.reverse_reverse, h]
  exact Nat.mod_eq_of_lt hlt

/-- Two digits for each byte spell the number that the bytes make. -/
theorem spells_bytes {bytes : List Nat} (h : ∀ n ∈ bytes, n < 256) :
    Spells 16 (bytes.map (padded 16 2)).flatten (Nat.ofDigits 256 bytes.reverse) ∧
      (bytes.map (padded 16 2)).flatten.length = 2 * bytes.length := by
  induction bytes with
  | nil => exact ⟨.nil, rfl⟩
  | cons n bytes ih =>
    obtain ⟨hspells, hlength⟩ := ih fun n' hn' => h n' (List.mem_cons_of_mem n hn')
    have hn : (padded 16 2 n).length = 2 :=
      length_padded (by omega) (by omega) (h n List.mem_cons_self)
    constructor
    · have hcons := (spells_padded (by omega) 2 n).append hspells
      rw [hlength, Nat.pow_mul] at hcons
      rw [List.map_cons, List.flatten_cons, List.reverse_cons, Nat.ofDigits_append,
        Nat.ofDigits_singleton, List.length_reverse, Nat.add_comm, Nat.mul_comm]
      exact hcons
    · rw [List.map_cons, List.flatten_cons, List.length_append, hn, hlength, List.length_cons]
      omega

/-- Without its colons the written form is the digits of the bytes. -/
theorem filter_chars (a : ExtAddress) :
    a.chars.filter (· ≠ ':') = (a.bytes.map (padded 16 2)).flatten := by
  refine filter_intercalate fun s hs => ?_
  obtain ⟨n, -, rfl⟩ := List.mem_map.mp hs
  exact fun c hc => (spells_padded (by omega) 2 n).ne_of_mem (by omega) (by decide) hc

/-- Every character of the written form is a digit or a colon. -/
theorem ne_of_mem_chars {c c' : Char} (hc : c ∈ a.chars) (hdigit : digit? 16 c' = none)
    (hcolon : c' ≠ ':') : c ≠ c' := by
  rintro rfl
  have hleft : c ∈ (a.bytes.map (padded 16 2)).flatten := by
    rw [← filter_chars, List.mem_filter]
    exact ⟨hc, decide_eq_true hcolon⟩
  have hspells := (spells_bytes fun n hn => lt_of_mem_bytes hn (a := a)).1
  exact hspells.ne_of_mem (by omega) hdigit hleft rfl

/-- No mark of a hexadecimal number is in front of a text without an x. -/
theorem dropMarks_of_forall (h : ∀ c ∈ s, c ≠ 'x') : dropMarks s = s := by
  unfold dropMarks
  split
  · simp at h
  · rfl

/-- **The written form of an address is read as the address.** -/
theorem readChars_chars (a : ExtAddress) : readChars a.chars = .ok a := by
  have hmarks : dropMarks a.chars = a.chars :=
    dropMarks_of_forall fun c hc => ne_of_mem_chars hc (by decide) (by decide)
  obtain ⟨hspells, hlength⟩ := spells_bytes fun n hn => lt_of_mem_bytes hn (a := a)
  have hne : (a.bytes.map (padded 16 2)).flatten ≠ [] := by
    rw [← List.length_pos_iff, hlength]
    simp [bytes]
  have hbound : a.value.toNat ≤ 2 ^ 64 - 1 := Nat.le_sub_one_of_lt a.value.toNat_lt
  rw [ofDigits_bytes] at hspells
  rw [readChars, hmarks, filter_chars, readNatural_of_spells (by omega) (by omega) hne hspells hbound]
  simp [Except.map]

/-- All written forms have one width. -/
theorem length_chars (a : ExtAddress) : a.chars.length = 23 := by
  have hlength : ∀ n, (padded 16 2 (n % 256)).length = 2 := fun n =>
    length_padded (by omega) (by omega) (Nat.mod_lt n (by omega))
  -- Eight bytes of two digits, and seven colons between them.
  simp [chars, bytes, List.range, List.range.loop, List.intercalate, hlength]

/-- **An address is told from any other by the text that begins with it**, whatever follows. -/
theorem append_chars_inj : a.chars ++ s = b.chars ++ t ↔ a = b ∧ s = t := by
  constructor
  · intro h
    obtain ⟨hchars, hrest⟩ := List.append_inj h (by rw [length_chars, length_chars])
    have hread := readChars_chars a
    rw [hchars, readChars_chars] at hread
    exact ⟨(Except.ok.inj hread).symm, hrest⟩
  · rintro ⟨rfl, rfl⟩
    rfl

end ExtAddress

/-! ### Unique ids -/

namespace UniqueId

open Text

variable {a b : ExtAddress} {e e' : UInt8} {c c' : UInt16} {s t : List Char}

theorem head_of_forall (h : ∀ d ∈ s, d ≠ '-') : head s = s := by
  unfold head
  rw [List.takeWhile_eq_self_iff]
  exact fun d hd => decide_eq_true (h d hd)

theorem head_append_dash (h : ∀ d ∈ s, d ≠ '-') (t : List Char) : head (s ++ '-' :: t) = s := by
  unfold head
  rw [List.takeWhile_append_of_pos fun d hd => decide_eq_true (h d hd)]
  simp

theorem tail?_of_forall (h : ∀ d ∈ s, d ≠ '-') : tail? s = none := by
  have hdrop : s.dropWhile (· ≠ '-') = [] := by
    rw [List.dropWhile_eq_nil_iff]
    exact fun d hd => decide_eq_true (h d hd)
  rw [tail?, hdrop]

theorem tail?_append_dash (h : ∀ d ∈ s, d ≠ '-') (t : List Char) :
    tail? (s ++ '-' :: t) = some t := by
  have hdrop : (s ++ '-' :: t).dropWhile (· ≠ '-') = '-' :: t := by
    rw [List.dropWhile_append_of_pos fun d hd => decide_eq_true (h d hd)]
    simp
  rw [tail?, hdrop]

/-- What a generated id has behind the address and a dash. -/
def partChars (e : UInt8) (c : UInt16) : List Char :=
  padded 16 2 e.toNat ++ if c = 0 then [] else '-' :: padded 16 4 c.toNat

/-- A generated id is the address, or the address, a dash and the part. -/
theorem toList_generate (a : ExtAddress) (e : UInt8) (c : UInt16) :
    (generate a e c).text.toList =
      a.chars ++ if e = 0 ∧ c = 0 then [] else '-' :: partChars e c := by
  rw [generate, String.toList_ofList, generatedChars, partChars]
  by_cases hc : c = 0
  · by_cases he : e = 0 <;> simp [hc, he]
  · simp [hc]

theorem head_partChars (e : UInt8) (c : UInt16) : head (partChars e c) = padded 16 2 e.toNat := by
  have hdash : ∀ d ∈ padded 16 2 e.toNat, d ≠ '-' := fun d hd =>
    (spells_padded (by omega) 2 e.toNat).ne_of_mem (by omega) (by decide) hd
  unfold partChars
  split_ifs
  · rw [List.append_nil]
    exact head_of_forall hdash
  · exact head_append_dash hdash _

theorem tail?_partChars (e : UInt8) (c : UInt16) :
    tail? (partChars e c) = if c = 0 then none else some (padded 16 4 c.toNat) := by
  have hdash : ∀ d ∈ padded 16 2 e.toNat, d ≠ '-' := fun d hd =>
    (spells_padded (by omega) 2 e.toNat).ne_of_mem (by omega) (by decide) hd
  unfold partChars
  split_ifs
  · rw [List.append_nil]
    exact tail?_of_forall hdash
  · exact tail?_append_dash hdash _

/-- Different endpoints or clusters make different parts. -/
theorem partChars_injective (h : partChars e c = partChars e' c') : e = e' ∧ c = c' := by
  -- The endpoint ends at the dash, and the cluster is what is behind it, if there is one.
  have hhead := congrArg head h
  have htail := congrArg tail? h
  rw [head_partChars, head_partChars] at hhead
  rw [tail?_partChars, tail?_partChars] at htail
  refine ⟨UInt8.toNat_inj.mp (padded_injective (by omega) (by omega) hhead), ?_⟩
  split_ifs at htail with hc hc'
  · rw [hc, hc']
  · exact UInt16.toNat_inj.mp (padded_injective (by omega) (by omega) (Option.some.inj htail))

theorem ne_dash_of_mem_chars (a : ExtAddress) : ∀ d ∈ a.chars, d ≠ '-' :=
  fun _ hd => ExtAddress.ne_of_mem_chars hd (by decide) (by decide)

theorem head_generate (a : ExtAddress) (e : UInt8) (c : UInt16) :
    head (generate a e c).text.toList = a.chars := by
  rw [toList_generate]
  split_ifs
  · rw [List.append_nil]
    exact head_of_forall (ne_dash_of_mem_chars a)
  · exact head_append_dash (ne_dash_of_mem_chars a) _

theorem tail?_generate (a : ExtAddress) (e : UInt8) (c : UInt16) :
    tail? (generate a e c).text.toList = if e = 0 ∧ c = 0 then none else some (partChars e c) := by
  rw [toList_generate]
  split_ifs
  · rw [List.append_nil]
    exact tail?_of_forall (ne_dash_of_mem_chars a)
  · exact tail?_append_dash (ne_dash_of_mem_chars a) _

/-- The address of a generated id is read back. -/
theorem address?_generate (a : ExtAddress) (e : UInt8) (c : UInt16) :
    (generate a e c).address? = some a := by
  rw [address?, head_generate, ExtAddress.readChars_chars]
  rfl

/-- The endpoint of a generated id is read back, if the id has a part. -/
theorem endpoint?_generate (a : ExtAddress) (e : UInt8) (c : UInt16) :
    (generate a e c).endpoint? = if e = 0 ∧ c = 0 then none else some e := by
  rw [endpoint?, tail?_generate]
  split_ifs
  · rfl
  · have he : e.toNat ≤ 255 := Nat.le_of_lt_succ e.toNat_lt
    simp only [Option.bind_eq_bind, Option.bind_some]
    rw [head_partChars, readNatural_padded (by omega) (by omega) he]
    simp [Except.toOption]

/-- No two triples share an id. -/
theorem generate_inj : generate a e c = generate b e' c' ↔ a = b ∧ e = e' ∧ c = c' := by
  constructor
  · intro h
    -- Since addresses have one width, the texts agree in the address and in what is behind it.
    have htext : (generate a e c).text.toList = (generate b e' c').text.toList := by rw [h]
    rw [toList_generate, toList_generate, ExtAddress.append_chars_inj] at htext
    refine ⟨htext.1, ?_⟩
    have hrest := htext.2
    split_ifs at hrest with hzero hzero'
    · rw [hzero.1, hzero.2, hzero'.1, hzero'.2]
      exact ⟨rfl, rfl⟩
    · exact partChars_injective (List.cons.inj hrest).2
  · rintro ⟨rfl, rfl, rfl⟩
    rfl

/-- The id of a node is the beginning of the ids of its own parts and of no others. -/
theorem generate_prefix_iff :
    (generate b 0 0).text.toList <+: (generate a e c).text.toList ↔ a = b := by
  rw [toList_generate, toList_generate, if_pos ⟨rfl, rfl⟩, List.append_nil]
  constructor
  · rintro ⟨rest, hrest⟩
    exact (ExtAddress.append_chars_inj.mp hrest).1.symm
  · rintro rfl
    exact List.prefix_append _ _

theorem isEmpty_generate (a : ExtAddress) (e : UInt8) (c : UInt16) :
    (generate a e c).isEmpty = false := by
  have hlength : 0 < (generate a e c).text.toList.length := by
    rw [toList_generate, List.length_append, ExtAddress.length_chars]
    omega
  rw [isEmpty, Bool.eq_false_iff]
  intro hempty
  rw [String.isEmpty_iff.mp hempty] at hlength
  simp at hlength

/-- **Generated ids are read back and told apart.**  An address is read from its written form.  A
generated id names something; its address is the one it was made of, and so is its endpoint, which is
left out together with the cluster only if both are zero.  Different triples have different ids, and
the id of a node begins the ids of this node only.  So of what is stored under a generated id, wherever
it stands, the rows of a node are all if the id is one of the node, and none otherwise. -/
theorem generate_reads_back (a b : ExtAddress) (e e' : UInt8) (c c' : UInt16) (s : Storage)
    (before after : List (UniqueId × List Row)) (rows : List Row) :
    ExtAddress.read a.text = .ok a ∧
      (generate a e c).isEmpty = false ∧
      (generate a e c).address? = some a ∧
      (generate a e c).endpoint? = (if e = 0 ∧ c = 0 then none else some e) ∧
      (generate a e c = generate b e' c' ↔ a = b ∧ e = e' ∧ c = c') ∧
      ((generate b 0 0).text.toList <+: (generate a e c).text.toList ↔ a = b) ∧
      ({ s with rows := before ++ (generate a e c, rows) :: after } : Storage).deviceRows
          (generate b 0 0) =
        ({ s with rows := before } : Storage).deviceRows (generate b 0 0) ++
          (if a = b then rows else []) ++
          ({ s with rows := after } : Storage).deviceRows (generate b 0 0) := by
  refine ⟨?_, isEmpty_generate a e c, address?_generate a e c, endpoint?_generate a e c,
    generate_inj, generate_prefix_iff, ?_⟩
  · rw [ExtAddress.read, ExtAddress.text, String.toList_ofList, ExtAddress.readChars_chars]
  · rw [Storage.deviceRows_append_cons]
    simp only [generate_prefix_iff]

end UniqueId

end ZigbeeGateway
