import ZigbeeGateway.Proofs.Catalog.Operations
import ZigbeeGateway.Proofs.Gateway.Links

/-!
# Attempts to set up a device

An attempt goes through a list of sub-resources of any length and hands items and links to whatever
keeps them.  It is all or nothing (`setUpDevice_all_or_nothing`): it fails exactly if it is asked for
a description or a device that is not there or if a pattern gives the empty unique id, wherever this
stands in the description, and then nothing was touched.

Two invariants are behind this.  A catalog that was filled through its own operations holds
descriptions without faults, so every sub-resource has its container.  A registry that can be reached
is coherent, so what is located is there, and a part that was set up stays while the others are.
-/

namespace ZigbeeGateway

open Registry

/-! ### Catalogs -/

/-- Every sub-resource of a description without faults has a container. -/
theorem Description.exists_kind? {d : Description} (h : d.fault? = none) {s : SubDevice}
    (hs : s ∈ d.subDevices) : ∃ kind, s.kind? = some kind := by
  unfold Description.fault? at h
  split_ifs at h
  have hs' := List.findSome?_eq_none_iff.mp h s hs
  unfold Description.subDeviceFault? at hs'
  split_ifs at hs' with hkind
  exact Option.ne_none_iff_exists'.mp (mt Option.isNone_iff_eq_none.mpr hkind)

namespace Catalog

/-- What a catalog can be filled through. -/
inductive Filled : Catalog → Prop where
  | empty : Filled {}
  | added {c c' : Catalog} {d : Description} {position : Nat} (h : Filled c)
      (hadd : c.add d = .ok (c', position)) : Filled c'
  | loaded {c c' : Catalog} {text : String} {position : Nat} (h : Filled c)
      (hload : c.load text = .ok (c', position)) : Filled c'
  | reloaded {c c' : Catalog} {ds : List Description} (h : Filled c)
      (hreload : c.reload ds = .ok c') : Filled c'

variable {c : Catalog} {d : Description}

/-- **All descriptions of a filled catalog are without faults.** -/
theorem Filled.fault?_eq_none (h : c.Filled) (hd : d ∈ c.descriptions) : d.fault? = none := by
  induction h generalizing d with
  | empty => cases hd
  | added _ hadd ih => exact (extends_add hadd).forall_fault? (fun _ => ih) d hd
  | loaded _ hload ih => exact (extends_load hload).forall_fault? (fun _ => ih) d hd
  | reloaded _ hreload _ =>
    obtain ⟨hfaults, rfl⟩ := reload_eq_ok_iff.mp hreload
    exact hfaults d hd

end Catalog

/-! ### Setting up what is planned -/

theorem Premises.managed_finishDevice (d : Device) (sleeper : Option Bool) (now : Instant) :
    (finishDevice d sleeper now).managed = true := by
  unfold finishDevice
  cases sleeper <;> rfl

namespace Registry

variable {σ : Type} {g g' : Registry} {a : ExtAddress}

/-- **What is planned is set up**, whatever keeps the items: the attempt gives a number for each
sub-resource, which is a part of the device from then on. -/
theorem isPart_setUpParts (store : Persistence σ) {o : Premises.Occasion} {d : Device}
    {parts : List (SubDevice × UniqueId)} (h : g.Coherent) (hd : g.device? o.address = some d)
    (hplanned : ∀ part ∈ parts, ∃ kind, part.1.IsPlanned kind part.2)
    (handle? : Nat → Nat → Option TemplateHandle) (position : Nat) (kept : σ) :
    ∃ ids, (g.setUpParts store o handle? position parts kept).answer = .ok ids ∧
      (g.setUpParts store o handle? position parts kept).registry.Coherent ∧
      Extends o.address g (g.setUpParts store o handle? position parts kept).registry ∧
      List.Forall₂ (fun part id => IsPart g
          (g.setUpParts store o handle? position parts kept).registry o.address part.2 id)
        parts ids := by
  induction parts generalizing g d position kept with
  | nil => exact ⟨[], rfl, h, .refl _ _, .nil⟩
  | cons part rest ih =>
    obtain ⟨s, u⟩ := part
    obtain ⟨kind, hpart⟩ := hplanned _ List.mem_cons_self
    obtain ⟨id, r, rows, kept', hid, -, -, heq⟩ :=
      setUpParts_cons store hpart hd handle? position rest kept
    -- The first part is found or made, linked and set up within its frame.
    obtain ⟨hcoherent, hextends, hfirst⟩ := h.setUp hd
      (Prod.ext rfl hid.symm : g.ensureResource kind s.type u o.created = (_, id))
      (o.frame_setUp (handle? position) s rows)
    obtain ⟨d', hd'⟩ := hextends.device d hd
    subst hid
    obtain ⟨ids, hids, hcoherent', hextends', hparts⟩ := ih hcoherent hd'
      (fun part hmem => hplanned part (List.mem_cons_of_mem _ hmem)) (position + 1) kept'
    rw [heq]
    refine ⟨_ :: ids, congrArg (Except.map _) hids, hcoherent', hextends.trans hextends', ?_⟩
    -- It stays one; stale links that the others met were there before it.
    exact .cons (hfirst.extend hextends') (hparts.imp fun _ _ hpart => hpart.of_extends hextends)

/-- What an attempt leaves that succeeds: the device is managed, and each sub-resource of the
description is a part of it under the number that was given. -/
structure IsSetUp (g g' : Registry) (a : ExtAddress) (desc : Description) (ids : List ResourceId) :
    Prop where
  coherent : g'.Coherent
  managed : ∃ d, g'.device? a = some d ∧ d.managed = true
  parts : List.Forall₂ (fun s id => IsPart g g' a (.ofPattern s.addressing a) id) desc.subDevices ids

variable (store : Persistence σ) (kept : σ) (catalog : Catalog) (description : Nat)
  (created now : Instant)

/-- **The outcomes of an attempt**: it fails before anything is touched, or all of the description is
set up. -/
theorem setUpDevice_cases (h : g.Coherent) (a : ExtAddress) :
    (∃ e, g.setUpDevice store kept catalog a description created now = ⟨g, kept, .error e⟩ ∧
      (catalog.get? description = none ∨ g.device? a = none ∨
        ∃ desc, catalog.get? description = some desc ∧
          ∃ e, Premises.planSubDevices a desc.subDevices = .error e)) ∨
    ∃ desc d planned ids, catalog.get? description = some desc ∧ g.device? a = some d ∧
      Premises.planSubDevices a desc.subDevices = .ok planned ∧
      (g.setUpDevice store kept catalog a description created now).answer = .ok ids ∧
      IsSetUp g (g.setUpDevice store kept catalog a description created now).registry a desc
        ids := by
  unfold setUpDevice
  -- The three causes of failure are checked before the registry is touched.
  cases hdesc : catalog.get? description with
  | none => exact .inl ⟨_, rfl, .inl rfl⟩
  | some desc =>
    cases hd : g.device? a with
    | none => exact .inl ⟨_, rfl, .inr (.inl rfl)⟩
    | some d =>
      dsimp only
      cases hplanned : Premises.planSubDevices a desc.subDevices with
      | error e => exact .inl ⟨_, rfl, .inr (.inr ⟨desc, rfl, e, hplanned⟩)⟩
      | ok planned =>
        dsimp only
        generalize hlist : planned.map _ = list
        -- From here on nothing fails: every part has its kind and its unique id.
        have hready : ∀ part ∈ list, ∃ kind, part.1.IsPlanned kind part.2 := by
          intro part hmem
          rw [← hlist] at hmem
          obtain ⟨⟨s, kind, u⟩, hentry, rfl⟩ := List.mem_map.mp hmem
          exact ⟨kind, Premises.isPlanned_of_mem hplanned hentry⟩
        obtain ⟨ids, hids, hcoherent, hextends, hparts⟩ := isPart_setUpParts store
          (o := Premises.occasion d desc a created now) h hd hready (catalog.handle? description) 0
          kept
        generalize g.setUpParts store _ _ _ _ kept = attempt at *
        rw [hids]
        -- The device is finished last, and this changes neither its address nor its links.
        have haddress := fun d' => (Gateway.address_finishDevice d' desc.sleeper now).1
        have hlinks := fun d' => (Gateway.address_finishDevice d' desc.sleeper now).2
        have hfinished := extends_modifyDevice attempt.registry a haddress hlinks
        obtain ⟨d', hd'⟩ := hextends.device d hd
        refine .inr ⟨desc, d, planned, ids, rfl, rfl, hplanned, rfl,
          hcoherent.keeps (keeps_modifyDevice _ a hlinks),
          ⟨_, ?_, Premises.managed_finishDevice d' desc.sleeper now⟩,
          ?_⟩
        · rw [device?_modifyDevice _ fun d hd => (haddress d).trans hd, if_pos rfl]
          exact congrArg (Option.map _) hd'
        · refine Premises.forall₂_of_planSubDevices hplanned ?_
          rw [← hlist] at hparts
          exact (List.forall₂_map_left_iff.mp hparts).imp fun _ _ hpart => hpart.extend hfinished

/-- The registries that can be reached, with anything that keeps items. -/
inductive Reachable : Registry → Prop where
  | initial : Reachable {}
  /-- Something happens to a gateway. -/
  | step {gateway : Gateway} (h : Reachable gateway.registry) (e : GatewayEvent) :
    Reachable (gateway.step e).registry
  /-- There is an attempt to set up a device. -/
  | attempt {σ : Type} {g : Registry} (h : Reachable g) (store : Persistence σ) (kept : σ)
    (catalog : Catalog) (a : ExtAddress) (description : Nat) (created now : Instant) :
    Reachable (g.setUpDevice store kept catalog a description created now).registry

/-- **A registry that can be reached is coherent.** -/
theorem Reachable.coherent (h : g.Reachable) : g.Coherent := by
  induction h with
  | initial => exact coherent_empty
  | step _ e ih => exact Gateway.coherent_step ih
  | attempt _ store kept catalog a description created now ih =>
    rcases setUpDevice_cases store kept catalog description created now ih a with
      ⟨e, heq, -⟩ | ⟨desc, d, planned, ids, -, -, -, -, hset⟩
    · rw [heq]
      exact ih
    · exact hset.coherent

/-- Histories of a gateway lead to registries that can be reached. -/
theorem reachable_run {start : Gateway} (hstart : start.registry = {})
    (history : List GatewayEvent) : (start.run history).registry.Reachable := by
  induction history using List.reverseRecOn with
  | nil =>
    rw [Gateway.run, List.foldl_nil, hstart]
    exact .initial
  | append_singleton history e ih =>
    rw [Gateway.run_concat]
    exact ih.step e

/-- **An attempt is all or nothing.**  In a registry that can be reached, with a filled catalog and
with anything that keeps items, an attempt to set up a device fails exactly if the description or the
device is unknown, or if the pattern of a sub-resource gives the empty unique id.  If it fails, the
registry and what is kept are as before.  If it succeeds, the device is managed, and the numbers that
are given name live resources with the unique ids of the sub-resources, in their order. -/
theorem setUpDevice_all_or_nothing (hg : g.Reachable) (hcatalog : catalog.Filled) (a : ExtAddress) :
    let attempt := g.setUpDevice store kept catalog a description created now
    ((∃ e, attempt.answer = .error e) ↔
      catalog.get? description = none ∨ g.device? a = none ∨
        ∃ desc, catalog.get? description = some desc ∧
          ∃ s ∈ desc.subDevices, (UniqueId.ofPattern s.addressing a).isEmpty = true) ∧
    (∀ e, attempt.answer = .error e → attempt.registry = g ∧ attempt.kept = kept) ∧
    ∀ ids, attempt.answer = .ok ids →
      ∃ desc, catalog.get? description = some desc ∧
        (∃ d, attempt.registry.device? a = some d ∧ d.managed = true) ∧
        List.Forall₂ (fun s id => ∃ r, attempt.registry.live? id = some r ∧
          r.uniqueId = .ofPattern s.addressing a) desc.subDevices ids := by
  intro attempt
  -- A filled catalog leaves the unique ids as the only thing that planning can fail at.
  have hplan : ∀ desc, catalog.get? description = some desc →
      ((∃ e, Premises.planSubDevices a desc.subDevices = .error e) ↔
        ∃ s ∈ desc.subDevices, (UniqueId.ofPattern s.addressing a).isEmpty = true) := by
    intro desc hdesc
    rw [Premises.planSubDevices_fails_iff]
    refine exists_congr fun s => and_congr_right fun hs => or_iff_left ?_
    obtain ⟨kind, hkind⟩ := Description.exists_kind?
      (hcatalog.fault?_eq_none (List.mem_of_getElem? hdesc)) hs
    rw [hkind]
    exact Option.some_ne_none kind
  rcases setUpDevice_cases store kept catalog description created now hg.coherent a with
    ⟨e, heq, hobstacle⟩ | ⟨desc, d, planned, ids, hdesc, hd, hplanned, hids, hset⟩
  · have hattempt : attempt = ⟨g, kept, .error e⟩ := heq
    rw [hattempt]
    refine ⟨⟨fun _ => ?_, fun _ => ⟨e, rfl⟩⟩, fun _ _ => ⟨rfl, rfl⟩, fun ids hids => ?_⟩
    · refine hobstacle.imp_right (.imp_right ?_)
      rintro ⟨desc, hdesc, hfails⟩
      exact ⟨desc, hdesc, (hplan desc hdesc).mp hfails⟩
    · cases hids
  · have hanswer : attempt.answer = .ok ids := hids
    have hno : ∀ e, attempt.answer ≠ .error e := fun e he => by
      rw [hanswer] at he
      cases he
    refine ⟨⟨fun ⟨e, he⟩ => absurd he (hno e), ?_⟩, fun e he => absurd he (hno e),
      fun ids' hids' => ?_⟩
    · rintro (hnone | hnone | ⟨desc', hdesc', hempty⟩)
      · rw [hdesc] at hnone
        cases hnone
      · rw [hd] at hnone
        cases hnone
      · obtain ⟨e, he⟩ := (hplan desc' hdesc').mpr hempty
        rw [hdesc] at hdesc'
        rw [Option.some.inj hdesc', he] at hplanned
        cases hplanned
    · rw [hanswer] at hids'
      obtain rfl := Except.ok.inj hids'
      exact ⟨desc, hdesc, hset.managed, hset.parts.imp fun _ _ hpart => hpart.live⟩

/-- A part whose pattern is empty, and so is its unique id. -/
def unaddressedPart : SubDevice :=
  { Gateway.temperaturePart with addressing := [] }

/-- A catalog with a description that can be applied and one whose second part has no unique id. -/
def halfAddressed : Catalog :=
  { descriptions := [Gateway.describing [Gateway.temperaturePart],
      Gateway.describing [Gateway.temperaturePart, unaddressedPart]] }

theorem filled_halfAddressed : halfAddressed.Filled := by
  have hadd : ∀ (c : Catalog) {d : Description}, d.fault? = none →
      c.add d = .ok ({ c with descriptions := c.descriptions ++ [d] }, c.size) := by
    intro c d hd
    rw [Catalog.add, hd]
    rfl
  have hfirst : (Gateway.describing [Gateway.temperaturePart]).fault? = none := by decide +kernel
  have hsecond : (Gateway.describing [Gateway.temperaturePart, unaddressedPart]).fault? = none := by
    decide +kernel
  exact .added (.added .empty (hadd _ hfirst)) (hadd _ hsecond)

/-- With nothing that keeps items, the first description makes a managed device of a new one, and the
second one leaves it alone. -/
theorem second_pattern_decides :
    let forgetful : Persistence Unit := ⟨fun _ _ _ => (), fun _ _ _ => (), fun _ _ => ([], ())⟩
    let g := (Gateway.plainThermometer.run [.deviceAdded ⟨1⟩ "A" "m"]).registry
    let attempt := fun description =>
      g.setUpDevice forgetful () halfAddressed ⟨1⟩ description .start2024 .start2024
    (∃ d, (attempt 0).registry.device? ⟨1⟩ = some d ∧ d.managed = true) ∧
      (∃ e, (attempt 1).answer = .error e) ∧ (attempt 1).registry = g := by
  intro forgetful g attempt
  have hg : g.Reachable := reachable_run rfl _
  obtain ⟨-, -, hset⟩ :=
    setUpDevice_all_or_nothing forgetful () halfAddressed 0 .start2024 .start2024 hg
      filled_halfAddressed ⟨1⟩
  obtain ⟨hfails, hleft, -⟩ :=
    setUpDevice_all_or_nothing forgetful () halfAddressed 1 .start2024 .start2024 hg
      filled_halfAddressed ⟨1⟩
  obtain ⟨-, -, hmanaged, -⟩ := hset [⟨2⟩] (by decide +kernel)
  obtain ⟨e, he⟩ := hfails.mpr (.inr (.inr ⟨_, rfl, _, List.mem_cons_of_mem _ List.mem_cons_self,
    by decide +kernel⟩))
  exact ⟨hmanaged, ⟨e, he⟩, (hleft e he).1⟩

end Registry

end ZigbeeGateway
