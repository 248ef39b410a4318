import ZigbeeGateway.Proofs.Gateway.History

/-!
# Devices that cannot be set up in full

Before a description is looked for, a device that does not know its manufacturer or its model recalls
them from what is stored.  When the description cannot be applied after that, what was recalled stays.
So an attempt that fails at a sub-resource leaves the gateway as it was, except for the identity of the
device, and this is as it was exactly if the device knew it or if nothing of it was stored
(`initDevice_partialFailure`).
-/

namespace ZigbeeGateway

/-! ### Recalling -/

/-- What recalling some items from rows does to a node: other items stay, and so does the node if
there are no rows of the items.  Each row that is found raises the revision, whether it can be restored
or not. -/
structure Resource.Recalls (rows : List Row) (suffixes : List String) (node node' : Resource) :
    Prop where
  rest : node' =
    { node with items := node'.items, revision := node'.revision, etag := node'.etag }
  others : ∀ s, s ∉ suffixes → node'.item? s = node.item? s
  untouched : (∀ row ∈ rows, row.suffix ∉ suffixes) → node' = node
  touched : node.revision ≤ node'.revision ∧
    ((∃ row ∈ rows, row.suffix ∈ suffixes) → node.revision < node'.revision)

namespace Resource.Recalls

variable {rows : List Row} {l l' : List String} {node node' node'' : Resource}

theorem trans (h : Recalls rows l node node') (h' : Recalls rows l' node' node'') :
    Recalls rows (l ++ l') node node'' := by
  refine ⟨?_, fun s hs => ?_, fun hnone => ?_, Nat.le_trans h.touched.1 h'.touched.1, ?_⟩
  · rw [h'.rest, h.rest]
  · rw [List.mem_append, not_or] at hs
    rw [h'.others s hs.2, h.others s hs.1]
  · have hfirst : node' = node := h.untouched fun row hrow hmem =>
      hnone row hrow (List.mem_append_left l' hmem)
    have hsecond : node'' = node' := h'.untouched fun row hrow hmem =>
      hnone row hrow (List.mem_append_right l hmem)
    rw [hsecond, hfirst]
  · rintro ⟨row, hrow, hmem⟩
    rcases List.mem_append.mp hmem with hmem | hmem
    · exact Nat.lt_of_lt_of_le (h.touched.2 ⟨row, hrow, hmem⟩) h'.touched.1
    · exact Nat.lt_of_le_of_lt h.touched.1 (h'.touched.2 ⟨row, hrow, hmem⟩)

/-- **A node is as before exactly if there were no rows.** -/
theorem eq_iff (h : Recalls rows l node node') :
    node' = node ↔ ∀ row ∈ rows, row.suffix ∉ l := by
  refine ⟨fun heq row hrow hmem => ?_, h.untouched⟩
  have hraised := h.touched.2 ⟨row, hrow, hmem⟩
  rw [heq] at hraised
  exact Nat.lt_irrefl _ hraised

end Resource.Recalls

namespace Premises

/-- One item of the identity is recalled from the first row with its suffix. -/
theorem recalls_restoreIdentity (rows : List Row) (node : Resource) (suffix : String) :
    node.Recalls rows [suffix] (restoreIdentity rows node suffix).1 := by
  unfold restoreIdentity
  cases hrow : rows.find? (·.suffix = suffix) with
  | none =>
    have hnone : ∀ row ∈ rows, row.suffix ∉ [suffix] := by simpa using hrow
    refine ⟨rfl, fun _ _ => rfl, fun _ => rfl, Nat.le_refl _, ?_⟩
    rintro ⟨row, hmem, hsuffix⟩
    exact absurd hsuffix (hnone row hmem)
  | some row =>
    have hfound : ¬ ∀ row ∈ rows, row.suffix ∉ [suffix] := fun hnone =>
      hnone row (List.mem_of_find?_eq_some hrow) (by simpa using List.find?_some hrow)
    dsimp only
    -- The revision counts the row even if the item does not take it.
    cases hitem : (node.item? suffix).bind row.restore? with
    | none =>
      exact ⟨rfl, fun s _ => Resource.item?_refreshEtag node s, fun hnone => absurd hnone hfound,
        Nat.le_succ _, fun _ => Nat.lt_succ_self _⟩
    | some item =>
      refine ⟨rfl, fun s hs => ?_, fun hnone => absurd hnone hfound, Nat.le_succ _,
        fun _ => Nat.lt_succ_self _⟩
      obtain ⟨old, hold, hrestore⟩ := Option.bind_eq_some_iff.mp hitem
      have hsuffix : item.suffix = suffix :=
        (Item.refit_restore? hrestore).suffix.trans (Resource.suffix_of_item? hold)
      rw [Resource.item?_refreshEtag, Resource.item?_modifyItem node fun _ _ => hsuffix,
        if_neg fun heq => hs (List.mem_singleton.mpr heq)]

/-- Both items of the identity are recalled. -/
theorem recallDevice_eq_ok {p p' : Premises} {a : ExtAddress} {d : Device} {known : Bool}
    (hd : p.registry.device? a = some d) (h : p.recallDevice a = .ok (p', known)) :
    ∃ node, d.node.Recalls (p.storage.deviceRows d.uniqueId) identity node ∧
      p' = { p with registry := p.registry.modifyNode a fun _ => node } := by
  unfold recallDevice at h
  rw [hd] at h
  obtain ⟨rfl, -⟩ := Prod.mk.inj (Except.ok.inj h)
  exact ⟨_, (recalls_restoreIdentity _ _ _).trans (recalls_restoreIdentity _ _ _), rfl⟩

end Premises

/-! ### Failing at a sub-resource -/

namespace Gateway

variable {g g' : Gateway} {a : ExtAddress} {d : Device}

/-- All is left as it is but the identity of one device, which gets another node. -/
structure LeftButIdentity (g g' : Gateway) (a : ExtAddress) (d : Device) (node : Resource) :
    Prop where
  /-- Resources, storage and all else of the gateway. -/
  rest : g' = { g with registry := { g.registry with devices := g'.registry.devices } }
  others : ∀ b, b ≠ a → g'.registry.device? b = g.registry.device? b
  known : g.registry.device? a = some d
  device : g'.registry.device? a = some { d with node }
  shape : node = { d.node with items := node.items, revision := node.revision, etag := node.etag }
  items : ∀ s, s ∉ Premises.identity → node.item? s = d.node.item? s

/-- There is nothing to recall of a device: it knows its manufacturer and its model, or neither of
them is stored. -/
def NothingToRecall (g : Gateway) (d : Device) : Prop :=
  (d.manufacturer.isEmpty = false ∧ d.modelId.isEmpty = false) ∨
    ∀ row ∈ g.storage.deviceRows d.uniqueId, row.suffix ∉ Premises.identity

/-- **Recalling the identity of a device**: nothing else changes, and it changes nothing exactly if
there is nothing to recall. -/
theorem recallIfUnknown_spec (hd : g.registry.device? a = some d) :
    ∃ node, g.LeftButIdentity (g.recallIfUnknown a d) a d node ∧
      (node = d.node ↔ g.NothingToRecall d) := by
  unfold recallIfUnknown NothingToRecall
  split_ifs with hunknown
  · -- The identity is not known.
    have hnot : ¬(d.manufacturer.isEmpty = false ∧ d.modelId.isEmpty = false) := by
      rintro ⟨hmanufacturer, hmodel⟩
      rw [hmanufacturer, hmodel] at hunknown
      cases hunknown
    split
    · rename_i p known hrecall
      obtain ⟨node, hnode, rfl⟩ := Premises.recallDevice_eq_ok hd hrecall
      have hdevice := Registry.device?_modifyDevice (a := a) g.registry
        (f := fun d => { d with node }) fun _ hd => hd
      refine ⟨node, ⟨rfl, fun b hb => ?_, hd, ?_, hnode.rest, hnode.others⟩, ?_⟩
      · exact (hdevice b).trans (if_neg hb)
      · rw [hd, Option.map_some] at hdevice
        exact (hdevice a).trans (if_pos rfl)
      · rw [hnode.eq_iff, or_iff_right hnot]
    · -- The device is there, so the recall does not fail.
      rename_i e hrecall
      unfold Premises.recallDevice at hrecall
      rw [hd] at hrecall
      cases hrecall
  · -- A known identity is not recalled.
    rw [Bool.or_eq_true, not_or, Bool.not_eq_true, Bool.not_eq_true] at hunknown
    refine ⟨d.node, ⟨rfl, fun _ _ => rfl, hd, hd, rfl, fun _ _ => rfl⟩, ?_⟩
    exact ⟨fun _ => .inl hunknown, fun _ => rfl⟩

/-- An attempt that fails for the sake of a description has recalled the identity before. -/
theorem initDevice_eq_schemaError {e : SchemaError}
    (h : g.initDevice a = (g', .error (.schema e))) :
    ∃ d, g.registry.device? a = some d ∧ g' = g.recallIfUnknown a d := by
  rw [initDevice_eq] at h
  split at h
  · cases (Prod.mk.inj h).2
  · rename_i d hd
    refine ⟨d, hd, ?_⟩
    dsimp only at h
    split at h
    · exact (Prod.mk.inj h).1.symm
    · split at h
      · exact (Prod.mk.inj h).1.symm
      · split at h
        · exact (Prod.mk.inj h).1.symm
        · cases (Prod.mk.inj h).2

/-- **What failing at a sub-resource leaves behind.**  If the description of a device cannot be applied
in full, all is left as it is but the identity of the device, and this too exactly if there was nothing
to recall. -/
theorem initDevice_partialFailure {device type : String}
    (h : g.initDevice a = (g', .error (.schema (.partialFailure device type)))) :
    ∃ d node, g.LeftButIdentity g' a d node ∧ (node = d.node ↔ g.NothingToRecall d) := by
  obtain ⟨d, hd, rfl⟩ := initDevice_eq_schemaError h
  exact ⟨d, recallIfUnknown_spec hd⟩

/-- A gateway that knows sensors whose only part has no unique id. -/
def unaddressed : Gateway :=
  knowing [{ temperaturePart with addressing := [] }]

/-- A sensor that is known is left as it was. -/
theorem known_sensor_left_alone :
    let g := unaddressed.run [.deviceAdded ⟨1⟩ "A" "m"]
    (g.initDevice ⟨1⟩).1.registry.device? ⟨1⟩ = g.registry.device? ⟨1⟩ := by
  intro g
  have hfails : (g.initDevice ⟨1⟩).2 =
      .error (.schema (.partialFailure "00:00:00:00:00:00:00:01" "ZHATemperature")) := by
    decide +kernel
  have hknown : ∀ d, g.registry.device? ⟨1⟩ = some d →
      d.manufacturer.isEmpty = false ∧ d.modelId.isEmpty = false := by
    have hall : (g.registry.device? ⟨1⟩).all fun d =>
        !d.manufacturer.isEmpty && !d.modelId.isEmpty := by decide +kernel
    intro d hd
    rw [hd] at hall
    simpa using hall
  obtain ⟨d, node, hleft, hsame⟩ := initDevice_partialFailure (Prod.ext rfl hfails)
  have hnode : node = d.node := hsame.mpr (.inl (hknown d hleft.known))
  rw [hleft.device, hleft.known, hnode]

/-- The rows of a sensor that was there before a restart. -/
def rowsOfSensor : Storage where
  rows := [(.ofPattern [UniqueId.addressMarker, "1"] ⟨1⟩,
    [⟨Suffix.manufacturerName, .text "A", 0⟩, ⟨Suffix.modelId, .text "m", 0⟩])]

/-- A sensor that comes back without its identity recalls it, although it cannot be set up. -/
theorem identity_stays_recalled :
    let g := { unaddressed with storage := rowsOfSensor }.run [.deviceAdded ⟨1⟩ "" ""]
    (g.initDevice ⟨1⟩).2 =
        .error (.schema (.partialFailure "00:00:00:00:00:00:00:01" "ZHATemperature")) ∧
      (g.registry.device? ⟨1⟩).map (fun d => (d.manufacturer, d.modelId, d.node.revision)) =
        some ("", "", 0) ∧
      ((g.initDevice ⟨1⟩).1.registry.device? ⟨1⟩).map
          (fun d => (d.manufacturer, d.modelId, d.node.revision)) =
        some ("A", "m", 2) := by
  decide +kernel

end Gateway

end ZigbeeGateway
