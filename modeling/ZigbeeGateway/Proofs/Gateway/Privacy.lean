import ZigbeeGateway.Gateway.Basic
import ZigbeeGateway.Proofs.Resource.View

/-!
# Private items are hidden

All that clients and observers get of a resource, its view, its messages and its ETag, is drawn from
its *face*: its identity, its revision, its ETag and what is shown of its items and of those of its
node.  Two resources of one face cannot be told apart (`Gateway.hides_private_items`), however their
private items differ: these may stand anywhere between the public ones, be components of a combination,
or have the name of an item of the node.

For this, every step of the view is shown to read no more of an item than its suffix and its value
(`Item.face`), and to skip the items that are not public.
-/

namespace ZigbeeGateway

/-- The item with nothing but what clients are shown of it. -/
def Item.face (item : Item) : Item :=
  { suffix := item.suffix, type := .bool, value := item.value }

namespace View

/-! ### Views of faces -/

/-- The face of an item is found under the suffix of the item. -/
theorem find?_map_face (items : List Item) (s : String) :
    (items.map Item.face).find? (·.suffix = s) = (items.find? (·.suffix = s)).map Item.face :=
  List.find?_map

/-- A combination of two items is one of their faces. -/
theorem placeColour_map_face (shown : List Item) (fields : Json.Fields) :
    placeColour (shown.map Item.face) fields = placeColour shown fields := by
  unfold placeColour
  dsimp only
  rw [find?_map_face, find?_map_face]
  cases shown.find? (·.suffix = Suffix.x) <;> cases shown.find? (·.suffix = Suffix.y) <;> rfl

/-- So is one of three items. -/
theorem placeOrientation_map_face (shown : List Item) (fields : Json.Fields) :
    placeOrientation (shown.map Item.face) fields = placeOrientation shown fields := by
  unfold placeOrientation
  dsimp only
  rw [find?_map_face, find?_map_face, find?_map_face]
  cases shown.find? (·.suffix = Suffix.orientationX) <;>
    cases shown.find? (·.suffix = Suffix.orientationY) <;>
      cases shown.find? (·.suffix = Suffix.orientationZ) <;> rfl

theorem placeAll_map_face (fields : Json.Fields) (items : List Item) :
    placeAll fields (items.map Item.face) = placeAll fields items :=
  List.foldl_map

/-- What is shown of a node; nothing without a node. -/
def nodeShown (device : Option Device) : List (String × Option Value) :=
  (device.map (·.node.shown)).getD []

end View

namespace Resource

open View

variable {r r' r₁ : Resource} {device device' : Option Device} {suffix : String} {item : Item}
  {v : Value} {now : Instant} {o : SetOutcome}

/-- The faces of the items that pass a check on public items are those of what is shown that pass
it. -/
theorem map_face_filter (r : Resource) {p : Item → Bool}
    (hp : ∀ i, p i = (i.isPublic && p i.face)) :
    (r.items.filter p).map Item.face =
      (r.shown.map fun (suffix, value) => ({ suffix, type := .bool, value } : Item)).filter p := by
  have hfaces : (r.shown.map fun (suffix, value) => ({ suffix, type := .bool, value } : Item)) =
      r.publicItems.map Item.face := by
    rw [shown, List.map_map]
    rfl
  have hfilter : r.items.filter p = r.publicItems.filter (p ∘ Item.face) := by
    rw [publicItems, List.filter_filter]
    refine List.filter_congr fun i _ => ?_
    rw [hp i, Bool.and_comm]
    rfl
  rw [hfaces, List.filter_map, hfilter]

/-- Without the endpoint and the ETag, a view is drawn from what is shown. -/
theorem gathered_congr (hown : r'.shown = r.shown) (hnode : nodeShown device' = nodeShown device)
    (category : Option String) : r'.gathered device' category = r.gathered device category := by
  have hitems : (r'.items.filter (isShown category)).map Item.face =
      (r.items.filter (isShown category)).map Item.face := by
    rw [map_face_filter r' fun _ => rfl, map_face_filter r fun _ => rfl, hown]
  have hsingles : (r'.singles category).map Item.face = (r.singles category).map Item.face := by
    have hplain : ∀ items : List Item,
        (items.filter fun i => !combined.contains i.suffix).map Item.face =
          (items.map Item.face).filter fun i => !combined.contains i.suffix := by
      intro items
      rw [List.filter_map]
      rfl
    rw [singles, singles, hplain, hplain, hitems]
  have hnodeItems : (nodeItems category device').map Item.face =
      (nodeItems category device).map Item.face := by
    -- Without a node, nothing is shown of it.
    have hdrawn : ∀ device, (nodeItems category device).map Item.face =
        ((nodeShown device).map fun (suffix, value) =>
          ({ suffix, type := .bool, value } : Item)).filter fun i =>
            isShown category i && i.suffix ≠ Suffix.uniqueId && i.suffix ≠ Suffix.type := by
      rintro (_ | d)
      · rfl
      · refine d.node.map_face_filter fun i => ?_
        unfold isShown Item.face
        cases i.isPublic <;> rfl
    rw [hdrawn, hdrawn, hnode]
  have hplaced : placeAll [] (nodeItems category device' ++ r'.singles category) =
      placeAll [] (nodeItems category device ++ r.singles category) := by
    rw [← placeAll_map_face, List.map_append, hnodeItems, hsingles, ← List.map_append,
      placeAll_map_face]
  unfold gathered
  dsimp only
  rw [hplaced, ← placeColour_map_face, ← placeOrientation_map_face, hitems,
    placeOrientation_map_face, placeColour_map_face]

/-! ### Resources of one face -/

/-- Two resources have the same identity, revision and ETag and show the same. -/
structure SameFace (r r' : Resource) : Prop where
  id : r'.id = r.id
  kind : r'.kind = r.kind
  uniqueId : r'.uniqueId = r.uniqueId
  revision : r'.revision = r.revision
  etag : r'.etag = r.etag
  shown : r'.shown = r.shown

instance (r r' : Resource) : Decidable (SameFace r r') :=
  decidable_of_iff
    (r'.id = r.id ∧ r'.kind = r.kind ∧ r'.uniqueId = r.uniqueId ∧ r'.revision = r.revision ∧
      r'.etag = r.etag ∧ r'.shown = r.shown)
    ⟨fun ⟨hid, hkind, huniqueId, hrevision, hetag, hshown⟩ =>
      ⟨hid, hkind, huniqueId, hrevision, hetag, hshown⟩,
      fun h => ⟨h.id, h.kind, h.uniqueId, h.revision, h.etag, h.shown⟩⟩

/-- Resources of one face have one view, whole or of a category. -/
theorem SameFace.view_eq (h : SameFace r r') (hnode : nodeShown device' = nodeShown device)
    (category : Option String) : r'.view device' category = r.view device category := by
  have hgathered := gathered_congr h.shown hnode category
  cases category with
  | some c => rw [view_some, view_some, hgathered]
  | none => rw [view_none, view_none, hgathered, h.etag, h.uniqueId]

/-- A set of a private item leaves the revision and the ETag as they are. -/
theorem revision_etag_of_private (hitem : r.item? suffix = some item)
    (hprivate : item.isPublic = false) (h : r.setValue suffix v now = .ok (r₁, o)) :
    r₁.revision = r.revision ∧ r₁.etag = r.etag := by
  obtain ⟨item₀, item₁, hitem₀, -, rfl⟩ := setValue_eq h
  obtain rfl := Option.some.inj (hitem.symm.trans hitem₀)
  rw [hprivate, Bool.and_false]
  exact ⟨rfl, rfl⟩

/-- **A set of a private item cannot be seen**: the resource keeps its face. -/
theorem sameFace_of_private (hr : r.suffixes.Nodup) (hitem : r.item? suffix = some item)
    (hprivate : item.isPublic = false) (h : r.setValue suffix v now = .ok (r₁, o)) :
    SameFace r r₁ := by
  obtain ⟨item₀, item₁, hitem₀, hset, rfl⟩ := setValue_eq h
  obtain rfl := Option.some.inj (hitem.symm.trans hitem₀)
  rw [hprivate, Bool.and_false]
  have hprivate₁ := (Item.isPublic_of_shape_eq (Item.set_shape hset)).trans hprivate
  exact ⟨rfl, rfl, rfl, rfl, rfl, shown_modifyItem hr hitem hprivate hprivate₁⟩

end Resource

namespace Gateway

open Resource View

variable {r r' : Resource} {device device' : Option Device}

/-- **Private items are hidden.**  Take two resources of one identity, revision and ETag that show the
same items, and two nodes, if any, that show the same; in number, position, type and value, their
private items are arbitrary.  Their views are the same, whole or of a category, and so are the messages
that tell clients of an item, and the ETags that are computed for them.  A set of a private item leaves
the revision and the ETag as they are, and with distinct suffixes the whole face, so that nothing of it
can be seen. -/
theorem hides_private_items (hface : SameFace r r') (hnode : nodeShown device' = nodeShown device) :
    (∀ category, r'.view device' category = r.view device category) ∧
    (∀ suffix, pushMessage r' suffix = pushMessage r suffix) ∧
    r'.computeEtag = r.computeEtag ∧
    ∀ suffix item v now r₁ o, r.item? suffix = some item → item.isPublic = false →
      r.setValue suffix v now = .ok (r₁, o) →
        (r₁.revision = r.revision ∧ r₁.etag = r.etag) ∧
          (r.suffixes.Nodup → SameFace r r₁) := by
  refine ⟨hface.view_eq hnode, fun suffix => ?_, computeEtag_congr hface.revision hface.shown,
    fun suffix item v now r₁ o hitem hprivate hset => ⟨?_, fun hr => ?_⟩⟩
  · -- A message holds the identity and the view of a category, and no ETag.
    unfold pushMessage
    dsimp only
    rw [hface.view_eq rfl, hface.kind, hface.id, hface.uniqueId]
  · exact revision_etag_of_private hitem hprivate hset
  · exact sameFace_of_private hr hitem hprivate hset

/-- A light with a private colour coordinate between its public items looks like one without it, also
if that one has a private axis of an orientation behind them and a private item at its node. -/
theorem private_coordinate_hidden :
    let x : Item := { suffix := Suffix.x, type := .uint16, value := some (.uint 100) }
    let y : Item :=
      { suffix := Suffix.y, type := .uint16, value := some (.uint 200), isPublic := false }
    let name : Item := { suffix := "attr/name", type := .string, value := some (.text "lamp") }
    let r := sensorOf [x, y, name]
    let r' := sensorOf [x, name, { y with suffix := Suffix.orientationZ, type := .int64 }]
    let device := Device.new ⟨1⟩ Instant.start2024
    let device' := { device with node := device.node.addItem y }
    (r'.view (some device') none = r.view (some device) none ∧
      pushMessage r' Suffix.x = pushMessage r Suffix.x ∧ r'.computeEtag = r.computeEtag) ∧
      ∃ r₁ o, r.setValue Suffix.y (.uint 7) Instant.start2024 = .ok (r₁, o) ∧ r₁ ≠ r ∧
        r₁.revision = r.revision ∧ r₁.etag = r.etag ∧ SameFace r r₁ := by
  intro x y name r r' device device'
  have hface : SameFace r r' := by decide +kernel
  have hnode : nodeShown (some device') = nodeShown (some device) := by decide +kernel
  obtain ⟨hview, hmessage, hetag, hset⟩ := hides_private_items hface hnode
  refine ⟨⟨hview none, hmessage Suffix.x, hetag⟩, ?_⟩
  have hset₁ : r.setValue Suffix.y (.uint 7) Instant.start2024 =
      .ok (r.modifyItem Suffix.y fun _ => y.setIfFits (.uint 7) Instant.start2024, .changed) := by
    decide +kernel
  obtain ⟨⟨hrevision, hetag⟩, hkept⟩ := hset Suffix.y y _ _ _ _ (by decide +kernel) rfl hset₁
  exact ⟨_, _, hset₁, by decide +kernel, hrevision, hetag, hkept (by decide +kernel)⟩

end Gateway

end ZigbeeGateway
