import ZigbeeGateway.Proofs.Setup.Descriptions
import ZigbeeGateway.Proofs.Setup.Repetition

/-!
# Described items

The templates that a description has for an item (`Description.templatesFor`) decide what becomes of
it.  An item without templates has the identity filled in at most (`visits_of_undescribed`), and an
item with one template is met once (`visits_of_described`).
-/

namespace ZigbeeGateway

variable {n : String} {t : ItemTemplate} {type : DataType} {u : UniqueId} {a : ExtAddress}

/-! ### Templates -/

/-- The templates of a sub-resource for the item with a name, as far as they have a type. -/
def SubDevice.templatesFor (s : SubDevice) (n : String) : List ItemTemplate :=
  s.items.filter fun t => t.name = n && t.type?.isSome

/-- The sub-resources of a description with a unique id on a device. -/
def Description.subDevicesFor (desc : Description) (a : ExtAddress) (u : UniqueId) :
    List SubDevice :=
  desc.subDevices.filter fun s => UniqueId.ofPattern s.addressing a = u

/-- The templates of a description for an item of the resource with a unique id on a device. -/
def Description.templatesFor (desc : Description) (a : ExtAddress) (u : UniqueId) (n : String) :
    List ItemTemplate :=
  (desc.subDevicesFor a u).flatMap (·.templatesFor n)

theorem SubDevice.mem_templatesFor {s : SubDevice} :
    t ∈ s.templatesFor n ↔ t ∈ s.items ∧ t.name = n ∧ t.type?.isSome = true := by
  simp [templatesFor]

namespace Item

variable {ts : List ItemTemplate}

/-- A name that one template with a type has is given the turn of this template. -/
theorem turns_of_singleton (h : (ts.filter fun t => t.name = n && t.type?.isSome) = [t])
    (handle? : Nat → Option TemplateHandle) (position : Nat) :
    ∃ handle, ∀ row now item,
      turns n handle? row now position ts item = turn? item t handle row now := by
  induction ts generalizing position with
  | nil => cases h
  | cons first ts ih =>
    rw [List.filter_cons] at h
    split_ifs at h with hfirst
    · obtain ⟨rfl, hrest⟩ := List.cons.inj h
      simp only [Bool.and_eq_true, decide_eq_true_eq] at hfirst
      refine ⟨handle? position, fun row now item => ?_⟩
      rw [turns, if_pos hfirst.1, turns_of_forall fun t' ht' hn' => ?_]
      simpa [hn'] using List.filter_eq_nil_iff.mp hrest t' ht'
    · obtain ⟨handle, hturns⟩ := ih h (position + 1)
      refine ⟨handle, fun row now item => ?_⟩
      rw [turns, hturns]
      split_ifs with hname
      · have hnone : first.type? = none := by simpa [hname] using hfirst
        rw [turn?, turn?, turn?, hnone]
      · rfl

end Item

namespace Premises

variable {desc : Description} {handle? : Nat → Nat → Option TemplateHandle}
  {planned : List (SubDevice × ResourceKind × UniqueId)}

/-! ### Plans -/

/-- The unique ids that are planned are the ones of the patterns. -/
theorem uniqueId_of_planned {subDevices : List SubDevice}
    (h : planSubDevices a subDevices = .ok planned) :
    ∀ entry ∈ planned, entry.2.2 = UniqueId.ofPattern entry.1.addressing a := by
  intro entry hentry
  obtain ⟨k, hk⟩ := List.mem_iff_getElem?.mp hentry
  have hs : subDevices[k]? = some entry.1 := by
    rw [← map_fst_planSubDevices h, List.getElem?_map, hk, Option.map_some]
  obtain ⟨kind, hplanned⟩ := exists_planned h hs
  rw [hk] at hplanned
  rw [Option.some.inj hplanned]

/-- The sub-resources that are planned for a unique id. -/
def plannedFor (planned : List (SubDevice × ResourceKind × UniqueId)) (u : UniqueId) :
    List SubDevice :=
  (planned.filter fun entry => entry.2.2 = u).map Prod.fst

theorem mem_plannedFor {s : SubDevice} {kind : ResourceKind} (h : (s, kind, u) ∈ planned) :
    s ∈ plannedFor planned u :=
  List.mem_map.mpr ⟨(s, kind, u), by simpa using h, rfl⟩

theorem plannedFor_cons (s : SubDevice) (kind : ResourceKind) (u' : UniqueId)
    (planned : List (SubDevice × ResourceKind × UniqueId)) (u : UniqueId) :
    plannedFor ((s, kind, u') :: planned) u =
      if u' = u then s :: plannedFor planned u else plannedFor planned u := by
  unfold plannedFor
  rw [List.filter_cons]
  split_ifs <;> simp_all

theorem plannedFor_eq (h : planSubDevices a desc.subDevices = .ok planned) (u : UniqueId) :
    plannedFor planned u = desc.subDevicesFor a u := by
  rw [Description.subDevicesFor, ← map_fst_planSubDevices h, List.filter_map, plannedFor]
  congr 1
  refine List.filter_congr fun entry hentry => ?_
  rw [Function.comp_apply, uniqueId_of_planned h entry hentry]

/-! ### Visits -/

namespace Occasion

variable {o : Occasion}

/-- An item that is none of the identity is left alone by what has no template for it. -/
theorem visit_of_templatesFor_nil {s : SubDevice} (hn : n ∉ identity) (h : s.templatesFor n = [])
    (handle? : Nat → Option TemplateHandle) (x : Option Item × Option Row) :
    o.visit handle? s n x = x := by
  refine visit_of_unnamed hn (fun t ht hname => ?_) handle? x
  simpa [hname] using List.filter_eq_nil_iff.mp h t ht

/-- An item that is none of the identity and has no template is left alone. -/
theorem visits_of_templates_nil (hn : n ∉ identity)
    (h : (plannedFor planned u).flatMap (·.templatesFor n) = []) (position : Nat)
    (x : Option Item × Option Row) : o.visits handle? u n position planned x = x := by
  refine visits_of_forall (fun s kind hmem => visit_of_templatesFor_nil hn ?_) position x
  exact List.flatMap_eq_nil_iff.mp h s (mem_plannedFor hmem)

/-- An item that is none of the identity and has one template is given its turn. -/
theorem visits_of_templates_singleton (hn : n ∉ identity)
    (h : (plannedFor planned u).flatMap (·.templatesFor n) = [t])
    (handle? : Nat → Nat → Option TemplateHandle) (position : Nat) :
    ∃ handle, ∀ (o : Occasion) (x : Option Item × Option Row),
      o.visits handle? u n position planned x = (Item.turn? x.1 t handle x.2 o.now, x.2) := by
  induction planned generalizing position with
  | nil => cases h
  | cons entry planned ih =>
    obtain ⟨s, kind, u'⟩ := entry
    rw [plannedFor_cons] at h
    by_cases hu : u' = u
    · rw [if_pos hu, List.flatMap_cons] at h
      rcases List.append_eq_singleton_iff.mp h with ⟨hfirst, hrest⟩ | ⟨hfirst, hrest⟩
      · obtain ⟨handle, hvisits⟩ := ih hrest (position + 1)
        refine ⟨handle, fun o x => ?_⟩
        rw [visits, if_pos hu, hvisits, visit_of_templatesFor_nil hn hfirst]
      · obtain ⟨handle, hturns⟩ := Item.turns_of_singleton hfirst (handle? position) 0
        refine ⟨handle, fun o x => ?_⟩
        rw [visits, if_pos hu, visits_of_templates_nil hn hrest, visit_of_notMem hn, hturns]
    · rw [if_neg hu] at h
      obtain ⟨handle, hvisits⟩ := ih h (position + 1)
      refine ⟨handle, fun o x => ?_⟩
      rw [visits, if_neg hu, hvisits]

/-- A spot of a unique id that one sub-resource has is visited by it. -/
theorem visits_of_plannedFor_singleton {s : SubDevice} (h : plannedFor planned u = [s])
    (handle? : Nat → Nat → Option TemplateHandle) (position : Nat) :
    ∃ handles, ∀ (o : Occasion) (n : String) (x : Option Item × Option Row),
      o.visits handle? u n position planned x = o.visit handles s n x := by
  induction planned generalizing position with
  | nil => cases h
  | cons first planned ih =>
    obtain ⟨s', kind, u'⟩ := first
    rw [plannedFor_cons] at h
    split_ifs at h with hu
    · obtain ⟨rfl, hrest⟩ := List.cons.inj h
      refine ⟨handle? position, fun o n x => ?_⟩
      rw [visits, if_pos hu]
      refine visits_of_forall (fun s kind hmem => ?_) _ _
      have hs := mem_plannedFor hmem
      rw [hrest] at hs
      cases hs
    · obtain ⟨handles, hvisits⟩ := ih h (position + 1)
      refine ⟨handles, fun o n x => ?_⟩
      rw [visits, if_neg hu, hvisits]

/-- **An item that has no template** has what is known of the device filled in, and nothing else
becomes of it. -/
theorem visits_of_undescribed (h : (plannedFor planned u).flatMap (·.templatesFor n) = [])
    (handle? : Nat → Nat → Option TemplateHandle) (position : Nat) {x : Option Item × Option Row}
    (htype : n ∈ identity → ∀ item, x.1 = some item → item.type = .string) :
    (o.visits handle? u n position planned x).1 =
      if plannedFor planned u = [] then x.1 else x.1.map (o.fill n) := by
  induction planned generalizing position x with
  | nil => rfl
  | cons entry planned ih =>
    obtain ⟨s, kind, u'⟩ := entry
    rw [plannedFor_cons] at h ⊢
    rw [visits]
    by_cases hu : u' = u
    · rw [if_pos hu, List.flatMap_cons] at h
      obtain ⟨hfirst, hrest⟩ := List.append_eq_nil_iff.mp h
      -- No template of this sub-resource has the name, so its visit only fills in the identity.
      have hvisit : (o.visit (handle? position) s n x).1 = x.1.map (o.fill n) :=
        Item.turns_of_forall (fun t ht hname => by
          simpa [hname] using List.filter_eq_nil_iff.mp hfirst t ht) 0 _
      have hfilled : n ∈ identity → ∀ item, x.1.map (o.fill n) = some item →
          item.type = .string := by
        intro hn item hitem
        obtain ⟨old, hold, rfl⟩ := Option.map_eq_some_iff.mp hitem
        exact (o.refit_fill n old).type.trans (htype hn old hold)
      rw [if_pos hu, if_pos hu, ih hrest (position + 1) (hvisit ▸ hfilled), hvisit,
        if_neg (List.cons_ne_nil _ _)]
      split_ifs
      · rfl
      · -- What is filled in once is there.
        cases hitem : x.1 with
        | none => rfl
        | some item =>
          simp only [Option.map_some]
          rw [fill_fill fun hn => htype hn item hitem]
    · rw [if_neg hu] at h ⊢
      rw [if_neg hu, ih h (position + 1) htype]

/-- **An item that has one template** is met once, if it is none of the identity or if one
sub-resource alone has the unique id. -/
theorem visits_of_described (h : desc.templatesFor a u n = [t])
    (hplanned : planSubDevices a desc.subDevices = .ok planned)
    (hsole : n ∈ identity → ∃ s, desc.subDevicesFor a u = [s])
    (handle? : Nat → Nat → Option TemplateHandle) :
    ∃ type handle, t.type? = some type ∧ ∀ (o : Occasion) (x : Option Item × Option Row),
      (n ∈ identity → x.1.isSome = true) →
      o.visits handle? u n 0 planned x =
        (some (o.meet n t handle x.2 (x.1.getD { suffix := n, type })),
          rowFor n (some (o.fill n (x.1.getD { suffix := n, type }))) x.2) := by
  have hmem : t ∈ desc.templatesFor a u n := by
    rw [h]
    exact List.mem_singleton_self t
  obtain ⟨s, -, hs⟩ := List.mem_flatMap.mp hmem
  obtain ⟨-, hname, htyped⟩ := SubDevice.mem_templatesFor.mp hs
  obtain ⟨type, htype⟩ := Option.isSome_iff_exists.mp htyped
  have hturn : ∀ item handle row now, Item.turn? item t handle row now =
      some ((item.getD { suffix := n, type }).turn t handle row now) := fun item handle row now => by
    rw [Item.turn?, htype, hname]
  by_cases hn : n ∈ identity
  · -- The sub-resource that has the unique id has the template.
    obtain ⟨s, hs⟩ := hsole hn
    rw [Description.templatesFor, hs, List.flatMap_singleton] at h
    rw [← plannedFor_eq hplanned] at hs
    obtain ⟨handles, hvisits⟩ := visits_of_plannedFor_singleton hs handle? 0
    obtain ⟨handle, hturns⟩ := Item.turns_of_singleton h handles 0
    refine ⟨type, handle, htype, fun o x hx => ?_⟩
    obtain ⟨item, hitem⟩ := Option.isSome_iff_exists.mp (hx hn)
    rw [hvisits, visit, hitem, Option.map_some, hturns, hturn]
    rfl
  · -- Outside the identity nothing is filled in, and the one template takes the one turn.
    rw [Description.templatesFor, ← plannedFor_eq hplanned] at h
    obtain ⟨handle, hvisits⟩ := visits_of_templates_singleton hn h handle? 0
    refine ⟨type, handle, htype, fun o x _ => ?_⟩
    rw [hvisits, hturn, meet, fill_of_notes (notes_of_notMem hn), rowFor, if_neg hn]

/-! ### Visits that are repeated -/

/-- Visits do not depend on the time for new resources. -/
theorem visits_created (created : Instant) (handle? : Nat → Nat → Option TemplateHandle)
    (position : Nat) (x : Option Item × Option Row) :
    ({ o with created } : Occasion).visits handle? u n position planned x =
      o.visits handle? u n position planned x := by
  induction planned generalizing position x with
  | nil => rfl
  | cons entry planned ih =>
    rw [visits, visits, ih]
    rfl

/-- **An item that has no template is left alone the second time.** -/
theorem visits_visits_of_undescribed
    (h : (plannedFor planned u).flatMap (·.templatesFor n) = [])
    (handle? : Nat → Nat → Option TemplateHandle) {x : Option Item × Option Row}
    (htype : n ∈ identity → ∀ item, x.1 = some item → item.type = .string) :
    (o.visits handle? u n 0 planned (o.visits handle? u n 0 planned x)).1 =
      (o.visits handle? u n 0 planned x).1 := by
  have hfirst := visits_of_undescribed (o := o) h handle? 0 htype
  rw [visits_of_undescribed h handle? 0 fun hn item hitem => ?_, hfirst]
  · split_ifs
    · rfl
    · cases hitem : x.1 with
      | none => rfl
      | some item =>
        simp only [Option.map_some]
        rw [fill_fill fun hn => htype hn item hitem]
  · rw [hfirst] at hitem
    split_ifs at hitem
    · exact htype hn item hitem
    · obtain ⟨old, hold, rfl⟩ := Option.map_eq_some_iff.mp hitem
      exact (o.refit_fill n old).type.trans (htype hn old hold)

/-- **An item that has one template**, once it was visited: when it is left alone the second time. -/
theorem visits_visits_of_described (h : desc.templatesFor a u n = [t])
    (hplanned : planSubDevices a desc.subDevices = .ok planned)
    (handle? : Nat → Nat → Option TemplateHandle) (x : Option Item × Option Row)
    (hnow : o.now.IsProper)
    (hidentity : n ∈ identity → (∃ s, desc.subDevicesFor a u = [s]) ∧
      ∃ item, x.1 = some item ∧ item.type = .string ∧ item.IsProper)
    (hrange : ∀ item, (o.visits handle? u n 0 planned x).1 = some item →
      item.stampInRange = true) :
    ∃ type item, t.type? = some type ∧ (o.visits handle? u n 0 planned x).1 = some item ∧
      ((o.visits handle? u n 0 planned (o.visits handle? u n 0 planned x)).1 = some item ↔
        t.isStatic = true ∨
          if n ∈ identity then
            o.Notes n item ∧
              item.IsSettled t (rowFor n (some item) (o.visits handle? u n 0 planned x).2)
          else (x.1.getD { suffix := n, type }).isFrozen = true →
            ∀ w, t.offer? (x.1.getD { suffix := n, type }).type x.2 = some w →
              (x.1.getD { suffix := n, type }).holds w = true) := by
  obtain ⟨type, handle, htype, hvisits⟩ :=
    visits_of_described h hplanned (fun hn => (hidentity hn).1) handle?
  have hsome : n ∈ identity → x.1.isSome = true := fun hn => by
    obtain ⟨-, item, hitem, -⟩ := hidentity hn
    rw [hitem]
    rfl
  -- An item of the identity is a text, and it is there before the visits.
  have hold : n ∈ identity → (x.1.getD { suffix := n, type }).type = .string ∧
      (x.1.getD { suffix := n, type }).IsProper := fun hn => by
    obtain ⟨-, item, hitem, hstring, hproper⟩ := hidentity hn
    rw [hitem, Option.getD_some]
    exact ⟨hstring, hproper⟩
  rw [hvisits o x hsome] at hrange ⊢
  rw [hvisits o _ fun _ => rfl]
  refine ⟨type, _, htype, rfl, ?_⟩
  dsimp only [Option.getD_some] at hrange ⊢
  generalize x.1.getD { suffix := n, type } = item at *
  have hrange' := hrange _ rfl
  have hproper : n ∈ identity → (o.meet n t handle x.2 item).IsProper := fun hn =>
    isProper_meet (hold hn).2 hnow t handle x.2
  rw [Option.some.injEq]
  -- A static template freezes the item in the first visits, so the second ones change nothing.
  cases ht : t.isStatic with
  | true =>
    rw [meet_meet_of_isStatic ht (fun hn => (hold hn).1) hrange' hproper hnow]
    simp
  | false =>
    simp only [Bool.false_eq_true, false_or]
    split_ifs with hn
    · -- The identity is noted again in each visit, so what is noted must be what is held.
      have hbound := o.isBound_meet n t handle x.2 item
      have hopen : (o.meet n t handle x.2 item).isFrozen = false := by
        rw [Item.isFrozen, ← hbound.isStatic_eq, ht, Bool.false_and]
      rw [meet_eq_self_iff hbound hrange'
        (fun hn => (o.refit_meet n t handle x.2 item).type.trans (hold hn).1) hproper hnow, hopen]
      simp only [Bool.false_eq_true, false_or]
    · exact meet_meet_iff ht hn hrange'

end Occasion

end Premises

end ZigbeeGateway
