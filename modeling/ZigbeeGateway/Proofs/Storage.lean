import ZigbeeGateway.Proofs.KeyedList
import ZigbeeGateway.Storage

/-!
# Stored rows

A row is found by a unique id and a suffix.  Storing an item puts its row there and leaves every
other row as it is (`row?_storeItem`); links and pending saves have nothing to do with rows.
-/

namespace ZigbeeGateway

/-- An item with a value has a row, which holds this value. -/
theorem Row.exists_ofItem? {item : Item} (h : item.value.isSome = true) :
    ∃ row, Row.ofItem? item = some row ∧ item.value = some row.value := by
  obtain ⟨value, hvalue⟩ := Option.isSome_iff_exists.mp h
  exact ⟨_, by rw [ofItem?, hvalue, Option.map_some], hvalue⟩

namespace Storage

variable {s : Storage} {u u' : UniqueId} {n : String} {row : Row} {item : Item}

/-- A row that is put among others is found, in the place of the one with its suffix. -/
theorem find?_putRow (rows : List Row) (row : Row) (n : String) :
    (putRow rows row).find? (·.suffix = n) =
      if n = row.suffix then some row else rows.find? (·.suffix = n) := by
  unfold putRow
  split_ifs with hany hn hn
  · have hmap := find?_map_update Row.suffix row.suffix (fun _ => row) (fun _ _ => rfl) rows n
    rw [if_pos hn] at hmap
    rw [hmap]
    -- A row with the suffix is there, so that it is replaced.
    obtain ⟨old, hold⟩ : ∃ old, rows.find? (·.suffix = row.suffix) = some old := by
      rw [← Option.isSome_iff_exists, List.find?_isSome]
      exact List.any_eq_true.mp hany
    rw [hold, Option.map_some]
  · have hmap := find?_map_update Row.suffix row.suffix (fun _ => row) (fun _ _ => rfl) rows n
    rw [if_neg hn] at hmap
    exact hmap
  · subst hn
    have hnone : rows.find? (·.suffix = row.suffix) = none := by
      simpa using hany
    rw [List.find?_append, hnone]
    simp
  · rw [List.find?_append]
    simp [Ne.symm hn]

theorem rowsOf_insert (s : Storage) (u : UniqueId) (row : Row) (u' : UniqueId) :
    (s.insert u row).rowsOf u' = if u' = u then putRow (s.rowsOf u) row else s.rowsOf u' := by
  unfold insert
  split_ifs with hany hu hu
  · obtain ⟨rows, hrows⟩ : ∃ rows, s.rows.lookup u = some rows := by
      obtain ⟨⟨k, rows⟩, hmem, hk⟩ := List.any_eq_true.mp hany
      obtain rfl := of_decide_eq_true hk
      rw [← Option.isSome_iff_exists, List.lookup_isSome_iff]
      exact ⟨_, hmem, beq_self_eq_true k⟩
    refine (congrArg (·.getD []) (lookup_map_update u (putRow · row) s.rows u')).trans ?_
    rw [if_pos hu, rowsOf, hrows]
    rfl
  · refine (congrArg (·.getD []) (lookup_map_update u (putRow · row) s.rows u')).trans ?_
    rw [if_neg hu, rowsOf]
  · -- The unique id has no entry yet, so it gets one behind the others.
    have hnone : s.rows.lookup u = none := by
      rw [List.lookup_eq_none_iff]
      rintro ⟨k, rows⟩ hmem
      rw [bne_iff_ne]
      rintro rfl
      exact hany (List.any_eq_true.mpr ⟨_, hmem, by simp⟩)
    rw [hu, rowsOf, rowsOf, List.lookup_append, hnone]
    simp [putRow]
  · rw [rowsOf, rowsOf, List.lookup_append, List.lookup_cons, List.lookup_nil,
      beq_false_of_ne hu]
    simp

/-- **A stored item is found under its unique id and suffix**, if it has a value, and no other row
changes. -/
theorem row?_storeItem (s : Storage) (u : UniqueId) (item : Item) (u' : UniqueId) (n : String) :
    (s.storeItem u item).row? u' n =
      if u' = u ∧ n = item.suffix then (Row.ofItem? item).or (s.row? u n) else s.row? u' n := by
  unfold storeItem Row.ofItem?
  cases item.value with
  | none =>
    dsimp only [Option.map_none]
    split_ifs with h
    · rw [h.1, Option.none_or]
    · rfl
  | some v =>
    dsimp only [Option.map_some]
    rw [row?, rowsOf_insert]
    by_cases hu : u' = u
    · rw [if_pos hu, find?_putRow]
      by_cases hn : n = item.suffix
      · rw [if_pos hn, if_pos ⟨hu, hn⟩, Option.some_or]
      · rw [if_neg hn, if_neg fun h => hn h.2, hu, row?]
    · rw [if_neg hu, if_neg fun h => hu h.1, row?]

@[simp] theorem links_insert (s : Storage) (u : UniqueId) (row : Row) :
    (s.insert u row).links = s.links := by
  unfold insert
  split_ifs <;> rfl

@[simp] theorem links_storeItem (s : Storage) (u : UniqueId) (item : Item) :
    (s.storeItem u item).links = s.links := by
  unfold storeItem
  split
  · exact links_insert s u _
  · rfl

@[simp] theorem pending_storeItem (s : Storage) (u : UniqueId) (item : Item) :
    (s.storeItem u item).pending = s.pending := by
  unfold storeItem insert
  split
  · split_ifs <;> rfl
  · rfl

@[simp] theorem row?_addLink (s : Storage) (node part u : UniqueId) (n : String) :
    (s.addLink node part).row? u n = s.row? u n := by
  unfold addLink
  split_ifs <;> rfl

@[simp] theorem row?_scheduleSave (s : Storage) (now : Nat) (table : SaveTable) (delay : Nat)
    (u : UniqueId) (n : String) :
    (s.scheduleSave now table delay).row? u n = s.row? u n :=
  rfl

/-- The rows of an entry are among those of a node if the id of the node begins the id of the entry. -/
theorem deviceRows_append_cons (s : Storage) (before after : List (UniqueId × List Row))
    (u node : UniqueId) (rows : List Row) :
    ({ s with rows := before ++ (u, rows) :: after } : Storage).deviceRows node =
      ({ s with rows := before } : Storage).deviceRows node ++
        (if node.text.toList <+: u.text.toList then rows else []) ++
        ({ s with rows := after } : Storage).deviceRows node := by
  unfold deviceRows
  rw [List.filter_append, List.flatMap_append, List.filter_cons]
  simp only [List.isPrefixOf_iff_prefix]
  split_ifs <;> simp

end Storage

end ZigbeeGateway
