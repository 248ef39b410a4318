import ZigbeeGateway.Proofs.Setup.Parts

/-!
# Visits

The *spot* of a unique id and a name is the item that the live resource has, with its row.  What a
whole description does to one spot is a run of visits: each sub-resource with the unique id visits
the spot, in the order of the description, and no other one touches it (`spot_setUpSubDevices`).  A
spot of a new resource is first visited as it was made (`spot_setUpSubDevices_of_mem`).
-/

namespace ZigbeeGateway

open Registry

namespace Premises

variable {p : Premises} {o : Occasion} {u u' : UniqueId} {n : String} {d : Device}

/-- The item of a name that the live resource with a unique id has, and the row of both. -/
def spot (p : Premises) (u : UniqueId) (n : String) : Option Item × Option Row :=
  ((p.registry.byUniqueId? u).bind (·.item? n), p.storage.row? u n)

/-- What the sub-resources with a unique id do to a spot, one after another; the first one stands at
a given position of the description. -/
def Occasion.visits (o : Occasion) (handle? : Nat → Nat → Option TemplateHandle) (u : UniqueId)
    (n : String) : Nat → List (SubDevice × ResourceKind × UniqueId) →
      Option Item × Option Row → Option Item × Option Row
  | _, [], x => x
  | position, (s, _, u') :: rest, x =>
    o.visits handle? u n (position + 1) rest
      (if u' = u then o.visit (handle? position) s n x else x)

/-- Nothing is known of the device for an item that is none of the identity. -/
theorem Occasion.fill_of_notMem (hn : n ∉ identity) : o.fill n = id := by
  unfold identity at hn
  simp only [List.mem_cons, List.not_mem_nil, or_false, not_or] at hn
  funext item
  rw [fill, known, if_neg hn.1, if_neg hn.2]
  simp

/-- A visit to an item that is none of the identity is the turns of the templates with its name. -/
theorem Occasion.visit_of_notMem {s : SubDevice} (hn : n ∉ identity)
    (handle? : Nat → Option TemplateHandle) (x : Option Item × Option Row) :
    o.visit handle? s n x = (Item.turns n handle? x.2 o.now 0 s.items x.1, x.2) := by
  unfold visit
  rw [fill_of_notMem hn, Option.map_id, id]
  dsimp only
  rw [rowFor, if_neg hn]

/-- A sub-resource that does not name an item, which is none of the identity, leaves its spot
alone. -/
theorem Occasion.visit_of_unnamed {s : SubDevice} (hn : n ∉ identity)
    (h : ∀ t ∈ s.items, t.name = n → t.type? = none) (handle? : Nat → Option TemplateHandle)
    (x : Option Item × Option Row) : o.visit handle? s n x = x := by
  rw [visit_of_notMem hn, Item.turns_of_forall h]

/-- A spot that no visit changes is left alone. -/
theorem Occasion.visits_of_forall {handle? : Nat → Nat → Option TemplateHandle}
    {planned : List (SubDevice × ResourceKind × UniqueId)}
    (h : ∀ s kind, (s, kind, u) ∈ planned → ∀ handle? x, o.visit handle? s n x = x)
    (position : Nat) (x : Option Item × Option Row) :
    o.visits handle? u n position planned x = x := by
  induction planned generalizing position x with
  | nil => rfl
  | cons entry planned ih =>
    obtain ⟨s, kind, u'⟩ := entry
    have hfirst : (if u' = u then o.visit (handle? position) s n x else x) = x := by
      split_ifs with hu
      · exact h s kind (hu ▸ List.mem_cons_self) _ x
      · rfl
    rw [visits, hfirst, ih fun s kind hmem => h s kind (List.mem_cons_of_mem _ hmem)]

/-- A spot that one sub-resource alone does something to has its visit. -/
theorem Occasion.visits_of_once {handle? : Nat → Nat → Option TemplateHandle}
    {planned : List (SubDevice × ResourceKind × UniqueId)} {k : Nat} {s : SubDevice}
    {kind : ResourceKind} (hk : planned[k]? = some (s, kind, u))
    (hothers : ∀ j s' kind', planned[j]? = some (s', kind', u) → j ≠ k →
      ∀ handle? x, o.visit handle? s' n x = x)
    (position : Nat) (x : Option Item × Option Row) :
    o.visits handle? u n position planned x = o.visit (handle? (position + k)) s n x := by
  -- The position grows with the list, so the one visit is met at position plus index.
  induction planned generalizing position k with
  | nil => cases hk
  | cons entry planned ih =>
    obtain ⟨s', kind', u'⟩ := entry
    rw [visits]
    cases k with
    | zero =>
      obtain ⟨rfl, hrest⟩ := Prod.mk.inj (Option.some.inj hk)
      obtain ⟨rfl, rfl⟩ := Prod.mk.inj hrest
      rw [if_pos rfl]
      refine visits_of_forall (fun s'' kind'' hmem => ?_) _ _
      obtain ⟨j, hj⟩ := List.mem_iff_getElem?.mp hmem
      exact hothers (j + 1) s'' kind'' hj (Nat.succ_ne_zero j)
    | succ k =>
      have hfirst : (if u' = u then o.visit (handle? position) s' n x else x) = x := by
        split_ifs with hu
        · exact hothers 0 s' kind' (by rw [hu]; rfl) (Nat.succ_ne_zero k).symm _ x
        · rfl
      rw [hfirst, ih hk fun j s'' kind'' hj hne =>
        hothers (j + 1) s'' kind'' hj fun heq => hne (Nat.succ.inj heq)]
      congr 2
      omega

/-- The live resources, by unique id, after one sub-resource was set up. -/
theorem byUniqueId?_setUpSubDevice (h : p.registry.Coherent)
    (hd : p.registry.device? o.address = some d) (handle? : Nat → Option TemplateHandle)
    (s : SubDevice) (kind : ResourceKind) (u u' : UniqueId) :
    (p.setUpSubDevice o handle? s kind u).1.registry.byUniqueId? u' =
      if u' = u then
        some (o.setUp handle? s ((p.setUpSubDevice o handle? s kind u).1.storage.rowsOf u)
          (p.registry.partFor kind s.type u o.created))
      else p.registry.byUniqueId? u' := by
  obtain ⟨-, hspec⟩ := setUpSubDevice_spec (o := o) h handle? s kind (u := u)
  obtain ⟨hcoherent, -⟩ := coherent_setUpSubDevice h hd handle? s kind u
  obtain ⟨hunique, hlive⟩ := h.partFor_live kind s.type u o.created
  have hpart := h.partFor_cases kind s.type u o.created
  generalize p.registry.partFor kind s.type u o.created = part at *
  generalize (p.setUpSubDevice o handle? s kind u).1 = p' at *
  have hresource := hspec.resource
  have hframe := o.frame_setUp handle? s (p'.storage.rowsOf u) part
  generalize o.setUp handle? s (p'.storage.rowsOf u) part = set at *
  have hid : set.id = part.id := Resource.id_of_frame_eq hframe
  -- The part is live under the unique id once it is set up, for a set-up keeps its frame.
  have hset : p'.registry.live? part.id = some set := by
    refine live?_eq_some_iff.mpr ⟨by rw [hresource, if_pos rfl], ?_⟩
    exact (Resource.deleted_of_frame_eq hframe).trans hlive
  have hsetUnique : set.uniqueId = u := (Resource.uniqueId_of_frame_eq hframe).trans hunique
  split_ifs with hu
  · rw [hu]
    exact hcoherent.byUniqueId?_eq_some_iff.mpr ⟨hid ▸ hset, hsetUnique⟩
  · -- A live resource with another unique id is not the part, before and after.
    refine Option.ext fun r => ?_
    rw [hcoherent.byUniqueId?_eq_some_iff, h.byUniqueId?_eq_some_iff]
    by_cases hr : r.id = part.id
    · constructor
      · rintro ⟨hr', rfl⟩
        rw [hr, hset] at hr'
        exact absurd (Option.some.inj hr' ▸ hsetUnique) hu
      · rintro ⟨hr', rfl⟩
        rcases hpart with ⟨-, hold⟩ | ⟨-, hfree⟩
        · rw [hr] at hr'
          have hsame := Option.some.inj ((live?_eq_some_iff.mp hr').1.symm.trans hold)
          exact absurd (hsame ▸ hunique) hu
        · rw [hr] at hr'
          rw [(live?_eq_some_iff.mp hr').1] at hfree
          cases hfree
    · unfold Registry.live?
      rw [hresource, if_neg hr]

/-- One sub-resource visits the spots of its unique id and no others. -/
theorem spot_setUpSubDevice (h : p.registry.Coherent)
    (hd : p.registry.device? o.address = some d) (handle? : Nat → Option TemplateHandle)
    (s : SubDevice) (kind : ResourceKind) (u u' : UniqueId) (n : String) :
    (p.setUpSubDevice o handle? s kind u).1.spot u' n =
      if u' = u then
        o.visit handle? s n ((p.registry.partFor kind s.type u o.created).item? n,
          p.storage.row? u n)
      else p.spot u' n := by
  obtain ⟨-, hspec⟩ := setUpSubDevice_spec (o := o) h handle? s kind (u := u)
  unfold spot
  rw [byUniqueId?_setUpSubDevice h hd, hspec.rows]
  split_ifs with hu
  · rw [Option.bind_some]
    unfold Occasion.setUp
    rw [Resource.item?_refreshEtag, Resource.item?_setUpItems, o.item?_identify]
    have hrow := hspec.rows u n
    rw [if_pos rfl] at hrow
    show (Item.turns n handle? ((p.setUpSubDevice o handle? s kind u).1.storage.row? u n) o.now 0
      s.items _, _) = _
    rw [hrow]
    rfl
  · rfl

/-- **What a description does to the spots of a resource that is there.** -/
theorem spot_setUpSubDevices (h : p.registry.Coherent)
    (hd : p.registry.device? o.address = some d) (handle? : Nat → Nat → Option TemplateHandle)
    (position : Nat) (planned : List (SubDevice × ResourceKind × UniqueId))
    (hu : (p.registry.byUniqueId? u).isSome = true) (n : String) :
    (p.setUpSubDevices o handle? position planned).1.spot u n =
      o.visits handle? u n position planned (p.spot u n) := by
  induction planned generalizing p position d with
  | nil => rfl
  | cons entry planned ih =>
    obtain ⟨s, kind, u'⟩ := entry
    obtain ⟨hcoherent, hextends⟩ := coherent_setUpSubDevice h hd (handle? position) s kind u'
    obtain ⟨d', hd'⟩ := hextends.device d hd
    have hthere : ((p.setUpSubDevice o (handle? position) s kind u').1.registry.byUniqueId? u
        |>.isSome) = true := by
      rw [byUniqueId?_setUpSubDevice h hd]
      split_ifs
      · rfl
      · exact hu
    rw [setUpSubDevices_cons, Occasion.visits]
    dsimp only
    rw [ih hcoherent hd' (position + 1) hthere, spot_setUpSubDevice h hd]
    congr 1
    -- A sub-resource with this unique id finds the item that is there; the others do not visit it.
    by_cases hsame : u = u'
    · subst hsame
      obtain ⟨r, hr⟩ := Option.isSome_iff_exists.mp hu
      rw [if_pos rfl, if_pos rfl, partFor_of_byUniqueId? hr, spot, hr, Option.bind_some]
    · rw [if_neg hsame, if_neg (Ne.symm hsame)]

/-- A spot of a resource that has to be made is first visited with the item that it is made with. -/
theorem spot_setUpSubDevices_of_new (h : p.registry.Coherent)
    (hd : p.registry.device? o.address = some d) (handle? : Nat → Nat → Option TemplateHandle)
    (position : Nat) {planned : List (SubDevice × ResourceKind × UniqueId)}
    (hnew : p.registry.byUniqueId? u = none) (hu : u ∈ planned.map (·.2.2)) (n : String) :
    ∃ s kind, (s, kind, u) ∈ planned ∧
      (p.setUpSubDevices o handle? position planned).1.spot u n =
        o.visits handle? u n position planned
          ((newPart kind s.type u o.created).item? n, p.storage.row? u n) := by
  -- Up to the first sub-resource with the unique id nothing is found there; that one makes the
  -- part, and the rest find it.
  induction planned generalizing p position d with
  | nil => cases hu
  | cons entry planned ih =>
    obtain ⟨s, kind, u'⟩ := entry
    obtain ⟨hcoherent, hextends⟩ := coherent_setUpSubDevice h hd (handle? position) s kind u'
    obtain ⟨d', hd'⟩ := hextends.device d hd
    rw [setUpSubDevices_cons]
    simp only [Occasion.visits]
    by_cases hsame : u = u'
    · -- This sub-resource makes the resource, and visits the spot first.
      subst hsame
      have hthere : ((p.setUpSubDevice o (handle? position) s kind u).1.registry.byUniqueId? u
          |>.isSome) = true := by
        rw [byUniqueId?_setUpSubDevice h hd, if_pos rfl]
        rfl
      refine ⟨s, kind, List.mem_cons_self, ?_⟩
      rw [spot_setUpSubDevices hcoherent hd' handle? (position + 1) planned hthere,
        spot_setUpSubDevice h hd, if_pos rfl, if_pos rfl, partFor_of_new hnew]
      rfl
    · -- A sub-resource with another unique id leaves the spot alone.
      have hrest : u ∈ planned.map (·.2.2) := by
        rcases List.mem_cons.mp hu with heq | hrest
        · exact absurd heq hsame
        · exact hrest
      have hstill : (p.setUpSubDevice o (handle? position) s kind u').1.registry.byUniqueId? u =
          none := by
        rw [byUniqueId?_setUpSubDevice h hd, if_neg hsame, hnew]
      have hspot := spot_setUpSubDevice h hd (handle? position) s kind u' u n
      rw [if_neg hsame] at hspot
      obtain ⟨s', kind', hmem, heq⟩ := ih hcoherent hd' (position + 1) hstill hrest
      refine ⟨s', kind', List.mem_cons_of_mem _ hmem, ?_⟩
      rw [if_neg (Ne.symm hsame), heq]
      exact congrArg (fun row? => o.visits handle? u n (position + 1) planned (_, row?))
        (congrArg Prod.snd hspot)

/-- A spot as it is first visited: the resource may have to be made. -/
structure IsStart (p : Premises) (o : Occasion)
    (planned : List (SubDevice × ResourceKind × UniqueId)) (u : UniqueId) (n : String)
    (x : Option Item × Option Row) : Prop where
  row : x.2 = p.storage.row? u n
  old : ∀ r, p.registry.byUniqueId? u = some r → x.1 = r.item? n
  new : p.registry.byUniqueId? u = none →
    ∃ s kind, (s, kind, u) ∈ planned ∧ x.1 = (newPart kind s.type u o.created).item? n

/-- **What a description does to the spots of its sub-resources**, be they there or not. -/
theorem spot_setUpSubDevices_of_mem (h : p.registry.Coherent)
    (hd : p.registry.device? o.address = some d) (handle? : Nat → Nat → Option TemplateHandle)
    (position : Nat) {planned : List (SubDevice × ResourceKind × UniqueId)}
    (hu : u ∈ planned.map (·.2.2)) (n : String) :
    ∃ x, IsStart p o planned u n x ∧
      (p.setUpSubDevices o handle? position planned).1.spot u n =
        o.visits handle? u n position planned x := by
  cases hfound : p.registry.byUniqueId? u with
  | some r =>
    refine ⟨p.spot u n, ⟨rfl, fun q hq => ?_, fun hnone => ?_⟩,
      spot_setUpSubDevices h hd handle? position planned (by rw [hfound]; rfl) n⟩
    · rw [spot, hq, Option.bind_some]
    · rw [hfound] at hnone
      cases hnone
  | none =>
    obtain ⟨s, kind, hmem, hspot⟩ := spot_setUpSubDevices_of_new h hd handle? position hfound hu n
    refine ⟨_, ⟨rfl, fun r hr => ?_, fun _ => ⟨s, kind, hmem, rfl⟩⟩, hspot⟩
    rw [hfound] at hr
    cases hr

end Premises

end ZigbeeGateway
