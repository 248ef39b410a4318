import Mathlib.Data.List.Nodup
import ZigbeeGateway.Proofs.Setup.Visits

/-!
# Descriptions without repetition

Most descriptions give each sub-resource a unique id of its own, and each item of a sub-resource a
name of its own.  Such a description does one turn to every item that it describes, be the resource
there or not (`turn_of_distinct`; `item_of_distinct` for items that are not of the identity).  The
numbers that setting up gives belong to the live resources with the unique ids, in any case
(`numbers_setUpSubDevices`).
-/

namespace ZigbeeGateway

open Registry

/-- Every sub-resource has a unique id of its own on a device, and every item of it a name of its
own. -/
structure Description.IsDistinct (desc : Description) (a : ExtAddress) : Prop where
  uniqueIds : (desc.subDevices.map fun s => UniqueId.ofPattern s.addressing a).Nodup
  names : ∀ s ∈ desc.subDevices, (s.items.map (·.name)).Nodup

/-- Entries of a list without repetition stand at one position. -/
theorem eq_of_getElem?_map {α β : Type*} {f : α → β} {xs : List α} (h : (xs.map f).Nodup)
    {i j : Nat} {x y : α} (hi : xs[i]? = some x) (hj : xs[j]? = some y) (heq : f x = f y) :
    i = j := by
  have hi' : (xs.map f)[i]? = some (f x) := by rw [List.getElem?_map, hi, Option.map_some]
  have hj' : (xs.map f)[j]? = some (f x) := by rw [List.getElem?_map, hj, Option.map_some, heq]
  exact (List.getElem?_inj (List.getElem?_eq_some_iff.mp hi').1 h).mp (hi'.trans hj'.symm)

/-- What holds of two lists, entry by entry, holds at each position. -/
theorem forall₂_getElem? {α β : Type*} {R : α → β → Prop} {xs : List α} {ys : List β}
    (h : List.Forall₂ R xs ys) {k : Nat} {x : α} (hx : xs[k]? = some x) :
    ∃ y, ys[k]? = some y ∧ R x y := by
  induction h generalizing k with
  | nil => cases hx
  | @cons x' y' _ _ hfirst _ ih =>
    cases k with
    | zero => exact ⟨y', rfl, Option.some.inj hx ▸ hfirst⟩
    | succ k => exact ih hx

namespace Premises

variable {p : Premises} {o : Occasion} {a : ExtAddress} {n : String} {d : Device}
  {subDevices : List SubDevice} {planned : List (SubDevice × ResourceKind × UniqueId)}
  {s : SubDevice} {k : Nat}

/-! ### Plans -/

/-- All sub-resources are planned, in their order. -/
theorem map_fst_planSubDevices (h : planSubDevices a subDevices = .ok planned) :
    planned.map Prod.fst = subDevices := by
  induction subDevices generalizing planned with
  | nil =>
    obtain rfl := Except.ok.inj h
    rfl
  | cons s rest ih =>
    unfold planSubDevices at h
    dsimp only at h
    split at h
    · cases hrest : planSubDevices a rest with
      | error e =>
        rw [hrest] at h
        cases h
      | ok others =>
        rw [hrest] at h
        obtain rfl := Except.ok.inj h
        rw [List.map_cons, ih hrest]
    · cases h

/-- The plan for the sub-resource at a position. -/
theorem exists_planned (h : planSubDevices a subDevices = .ok planned)
    (hs : subDevices[k]? = some s) :
    ∃ kind, planned[k]? = some (s, kind, UniqueId.ofPattern s.addressing a) := by
  have hfirst := congrArg (·[k]?) (map_fst_planSubDevices h)
  have hthird := congrArg (·[k]?) (uniqueIds_planSubDevices h)
  simp only [List.getElem?_map, hs, Option.map_some] at hfirst hthird
  obtain ⟨⟨s', kind, u⟩, hentry, rfl⟩ := Option.map_eq_some_iff.mp hfirst
  rw [hentry] at hthird
  exact ⟨kind, by rw [hentry, ← Option.some.inj hthird]⟩

/-! ### Numbers -/

/-- **The numbers that are given are those of the live resources** with the unique ids. -/
theorem numbers_setUpSubDevices (h : p.registry.Coherent)
    (hd : p.registry.device? o.address = some d) (handle? : Nat → Nat → Option TemplateHandle)
    (position : Nat) (planned : List (SubDevice × ResourceKind × UniqueId)) :
    List.Forall₂ (fun entry id => ∃ r,
        (p.setUpSubDevices o handle? position planned).1.registry.byUniqueId? entry.2.2 = some r ∧
          r.id = id)
      planned (p.setUpSubDevices o handle? position planned).2 := by
  obtain ⟨hcoherent, -, hparts⟩ := isPart_setUpSubDevices h hd handle? position planned
  refine hparts.imp fun entry id hpart => ?_
  obtain ⟨r, hlive, hunique⟩ := hpart.live
  have hid := id_of_resource? (live?_eq_some_iff.mp hlive).1
  exact ⟨r, hcoherent.byUniqueId?_eq_some_iff.mpr ⟨hid ▸ hlive, hunique⟩, hid⟩

/-! ### One turn -/

/-- A spot that one sub-resource visits begins as the item of the part that this one sets up. -/
theorem IsStart.item_eq {x : Option Item × Option Row} {u : UniqueId} {kind : ResourceKind}
    (hx : IsStart p o planned u n x) (hk : planned[k]? = some (s, kind, u))
    (huniqueIds : (planned.map (·.2.2)).Nodup) :
    x.1 = (p.registry.partFor kind s.type u o.created).item? n := by
  cases hfound : p.registry.byUniqueId? u with
  | some r => rw [hx.old r hfound, partFor_of_byUniqueId? hfound]
  | none =>
    obtain ⟨s', kind', hmem, hitem⟩ := hx.new hfound
    obtain ⟨i, hi⟩ := List.mem_iff_getElem?.mp hmem
    obtain rfl := eq_of_getElem?_map huniqueIds hi hk rfl
    obtain ⟨rfl, hrest⟩ := Prod.mk.inj (Option.some.inj (hi.symm.trans hk))
    obtain ⟨rfl, -⟩ := Prod.mk.inj hrest
    rw [hitem, partFor_of_new hfound]
    rfl

/-- **A description without repetition does one turn to each item that it describes**: the item, with
what is known of the device filled in, is that of the live resource with the number that is given. -/
theorem turn_of_distinct {desc : Description} {j : Nat} {t : ItemTemplate} {type : DataType}
    (h : p.registry.Coherent) (hd : p.registry.device? o.address = some d)
    (handle? : Nat → Nat → Option TemplateHandle) (hdistinct : desc.IsDistinct o.address)
    (hplanned : planSubDevices o.address desc.subDevices = .ok planned)
    (hs : desc.subDevices[k]? = some s) (ht : s.items[j]? = some t) (htype : t.type? = some type) :
    ∃ x r, IsStart p o planned (.ofPattern s.addressing o.address) t.name x ∧
      (p.setUpSubDevices o handle? 0 planned).1.registry.byUniqueId?
        (.ofPattern s.addressing o.address) = some r ∧
      (p.setUpSubDevices o handle? 0 planned).2[k]? = some r.id ∧
      r.item? t.name = some (((x.1.map (o.fill t.name)).getD { suffix := t.name, type }).turn t
        (handle? k j) (Occasion.rowFor t.name (x.1.map (o.fill t.name)) x.2) o.now) ∧
      (p.setUpSubDevices o handle? 0 planned).1.storage.row? (.ofPattern s.addressing o.address)
        t.name = Occasion.rowFor t.name (x.1.map (o.fill t.name)) x.2 := by
  obtain ⟨kind, hk⟩ := exists_planned hplanned hs
  have huniqueIds : (planned.map (·.2.2)).Nodup := by
    rw [uniqueIds_planSubDevices hplanned]
    exact hdistinct.uniqueIds
  have hnames := hdistinct.names s (List.mem_of_getElem? hs)
  obtain ⟨x, hx, hspot⟩ := spot_setUpSubDevices_of_mem h hd handle? 0
    (List.mem_map_of_mem (List.mem_of_getElem? hk)) t.name
  -- No other sub-resource visits the spot, and no other template has a turn.
  rw [Occasion.visits_of_once hk fun i s' kind' hi hne =>
    absurd (eq_of_getElem?_map huniqueIds hi hk rfl) hne, Nat.zero_add, Occasion.visit,
    Item.turns_of_once ht rfl fun i t' hi hne hname =>
    absurd (eq_of_getElem?_map hnames hi ht hname) hne, Nat.zero_add, Item.turn?, htype] at hspot
  obtain ⟨id, hid, r, hr, rfl⟩ :=
    forall₂_getElem? (numbers_setUpSubDevices h hd handle? 0 planned) hk
  obtain ⟨hitem, hrow⟩ := Prod.mk.inj hspot
  rw [hr, Option.bind_some] at hitem
  exact ⟨x, r, hx, hr, hid, hitem, hrow⟩

/-- The turn of an item that is not of the identity, into which nothing is filled. -/
theorem item_of_distinct {desc : Description} {j : Nat} {t : ItemTemplate} {type : DataType}
    (h : p.registry.Coherent) (hd : p.registry.device? o.address = some d)
    (handle? : Nat → Nat → Option TemplateHandle) (hdistinct : desc.IsDistinct o.address)
    (hplanned : planSubDevices o.address desc.subDevices = .ok planned)
    (hs : desc.subDevices[k]? = some s) (ht : s.items[j]? = some t) (htype : t.type? = some type)
    (hn : t.name ∉ identity) :
    ∃ x r, IsStart p o planned (.ofPattern s.addressing o.address) t.name x ∧
      (p.setUpSubDevices o handle? 0 planned).1.registry.byUniqueId?
        (.ofPattern s.addressing o.address) = some r ∧
      (p.setUpSubDevices o handle? 0 planned).2[k]? = some r.id ∧
      r.item? t.name = some ((x.1.getD { suffix := t.name, type }).turn t (handle? k j) x.2 o.now) ∧
      (p.setUpSubDevices o handle? 0 planned).1.storage.row? (.ofPattern s.addressing o.address)
        t.name = x.2 := by
  obtain ⟨x, r, hx, hr, hid, hitem, hrow⟩ :=
    turn_of_distinct h hd handle? hdistinct hplanned hs ht htype
  rw [Occasion.fill_of_notMem hn, Option.map_id, id, Occasion.rowFor, if_neg hn] at hitem hrow
  exact ⟨x, r, hx, hr, hid, hitem, hrow⟩

/-! ### The device -/

/-- The node of the device is not touched before the device is finished. -/
theorem node_setUpSubDevices (h : p.registry.Coherent) (hd : p.registry.device? o.address = some d)
    (handle? : Nat → Nat → Option TemplateHandle) (position : Nat)
    (planned : List (SubDevice × ResourceKind × UniqueId)) :
    ((p.setUpSubDevices o handle? position planned).1.registry.device? o.address).map Device.node =
      some d.node := by
  rw [← Option.map_some, ← hd]
  refine rel_setUpSubDevices (P := fun p p' => (p'.registry.device? o.address).map Device.node =
      (p.registry.device? o.address).map Device.node) (fun _ => rfl)
    (fun _ _ _ h h' => h'.trans h) (fun p handle? s kind u h => ?_) h hd handle? position planned
  obtain ⟨-, hspec⟩ := setUpSubDevice_spec (o := o) h handle? s kind (u := u)
  have hdevices := hspec.devices
  unfold Registry.device?
  rw [hdevices]
  refine (congrArg (Option.map Device.node) (device?_modifyDevice p.registry
    (fun d hd => (d.address_addLink u _).trans hd) o.address)).trans ?_
  rw [if_pos rfl, Option.map_map]
  congr 1
  funext d
  show (d.addLink _ _).node = d.node
  unfold Device.addLink
  split_ifs <;> rfl

/-- Finishing a device sets nothing but whether it sleeps. -/
theorem nodeText_finishDevice (d : Device) (sleeper : Option Bool) (now : Instant)
    (hn : n ≠ Suffix.sleeper) : (finishDevice d sleeper now).nodeText n = d.nodeText n := by
  unfold finishDevice Device.nodeText
  cases sleeper with
  | none => rfl
  | some b =>
    dsimp only
    rw [Resource.item?_setIfFits, if_neg hn]

/-- Finishing a device leaves its unique id alone. -/
theorem uniqueId_finishDevice (d : Device) (sleeper : Option Bool) (now : Instant) :
    (finishDevice d sleeper now).uniqueId = d.uniqueId := by
  unfold finishDevice Device.uniqueId
  cases sleeper with
  | none => rfl
  | some b =>
    have htraffic := @Resource.traffic_setIfFits (fun _ => True) Suffix.sleeper trivial d.node
      (.bool b) now
    exact Resource.uniqueId_of_frame_eq (Resource.Traffic.sameShape_run htraffic).frame

/-- **A description leaves the identity of its device alone.** -/
theorem identity_applied (h : p.registry.Coherent) (hd : p.registry.device? o.address = some d)
    (handle? : Nat → Nat → Option TemplateHandle) (position : Nat)
    (planned : List (SubDevice × ResourceKind × UniqueId)) (desc : Description) (now : Instant) :
    ∃ d', ((p.setUpSubDevices o handle? position planned).1.finish o.address desc now
        ).registry.device? o.address = some d' ∧
      d'.manufacturer = d.manufacturer ∧ d'.modelId = d.modelId ∧ d'.uniqueId = d.uniqueId := by
  obtain ⟨d₁, hd₁, hnode⟩ :=
    Option.map_eq_some_iff.mp (node_setUpSubDevices h hd handle? position planned)
  refine ⟨finishDevice d₁ desc.sleeper now, ?_, ?_, ?_, ?_⟩
  · refine (device?_modifyDevice _ (fun d hd => ?_) o.address).trans ?_
    · exact (Gateway.address_finishDevice d desc.sleeper now).1.trans hd
    · rw [if_pos rfl, hd₁, Option.map_some]
  · rw [Device.manufacturer, nodeText_finishDevice _ _ _ (by decide), Device.nodeText, hnode]
    rfl
  · rw [Device.modelId, nodeText_finishDevice _ _ _ (by decide), Device.nodeText, hnode]
    rfl
  · rw [uniqueId_finishDevice, Device.uniqueId, hnode]
    rfl

end Premises

end ZigbeeGateway
