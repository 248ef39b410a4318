import ZigbeeGateway.Proofs.Gateway.Consequences
import ZigbeeGateway.Proofs.Gateway.Submitting
import ZigbeeGateway.Proofs.Registry.Evolution

/-!
# Traffic through a gateway

Setting an item, making an update known, taking a report and letting time pass are traffic for every
resource of the gateway, and leave its devices and descriptions alone.  The theorems go up from
`traffic_raise` to `traffic_applyReport` and `traffic_tick`.
-/

namespace ZigbeeGateway.Gateway

open Relation

/-- Resources go through daily traffic, and what writes look up besides them stays. -/
structure Traffic (touched : String → Prop) (g g' : Gateway) : Prop where
  resources : Registry.Evolves (Resource.Traffic touched) g.registry g'.registry
  devices : g'.registry.devices = g.registry.devices
  catalog : g'.catalog = g.catalog

variable {touched : String → Prop} {g g' g'' : Gateway} {id : ResourceId} {suffix : String}
  {v : Value}

namespace Traffic

theorem refl (touched : String → Prop) (g : Gateway) : Traffic touched g g :=
  ⟨.refl _ _, rfl, rfl⟩

theorem trans (h : Traffic touched g g') (h' : Traffic touched g' g'') : Traffic touched g g'' :=
  ⟨h.resources.trans h'.resources, h'.devices.trans h.devices, h'.catalog.trans h.catalog⟩

theorem exists_live? (h : Traffic touched g g') {r : Resource}
    (hlive : g.registry.live? id = some r) :
    ∃ r', g'.registry.live? id = some r' ∧ ReflTransGen (Resource.Traffic touched) r r' := by
  obtain ⟨hr, hdeleted⟩ := Registry.live?_eq_some_iff.mp hlive
  obtain ⟨r', hr', hrun⟩ := h.resources.kept id r hr
  refine ⟨r', Registry.live?_eq_some_iff.mpr ⟨hr', ?_⟩, hrun⟩
  have hframe := (Resource.Traffic.sameShape_run hrun).frame
  rw [Resource.deleted_of_frame_eq hframe, hdeleted]

/-- What does not concern the registry or the descriptions. -/
theorem of_eq (hregistry : g'.registry = g.registry) (hcatalog : g'.catalog = g.catalog) :
    Traffic touched g g' :=
  ⟨hregistry ▸ .refl _ _, congrArg Registry.devices hregistry, hcatalog⟩

end Traffic

theorem traffic_modifyResource (g : Gateway) (id : ResourceId) {f : Resource → Resource}
    (hf : ∀ r, Resource.Traffic touched r (f r)) : Traffic touched g (g.modifyResource id f) := by
  refine ⟨Registry.evolves_modifyResource ?_ fun r _ => .single (hf r), rfl, rfl⟩
  intro r hr
  rw [Resource.Traffic.id_run (.single (hf r)), hr]

/-! ### Making updates known -/

theorem traffic_push (g : Gateway) (r : Resource) (item : Item) :
    Traffic touched g (g.push r item) := by
  unfold push
  split_ifs
  · have hemit : Traffic touched g (g.emit [.pushed (pushMessage r item.suffix)]) := .of_eq rfl rfl
    exact hemit.trans (traffic_modifyResource _ _ fun r => .told r item.suffix)
  · exact .refl _ _

theorem traffic_raise (g : Gateway) (id : ResourceId) (suffix : String) :
    Traffic touched g (g.raise id suffix) := by
  unfold raise
  split
  · exact .refl _ _
  · rename_i r _
    split
    · exact .refl _ _
    · rename_i item _
      extract_lets stored marked scheduled pushed
      have hstored : Traffic touched g stored := .of_eq rfl rfl
      have hmarked : Traffic touched stored marked :=
        traffic_modifyResource stored id fun r => .note r
      have hscheduled : Traffic touched marked scheduled := .of_eq rfl rfl
      have hpushed : Traffic touched scheduled pushed := traffic_push scheduled r item
      refine (((hstored.trans hmarked).trans hscheduled).trans hpushed).trans ?_
      exact .of_eq rfl rfl

/-- The gateway after a resource was put back, and the update of an item made known if asked for. -/
def putBack (g : Gateway) (id : ResourceId) (suffix : String) (r : Resource) (known : Bool) :
    Gateway :=
  if known then (g.modifyResource id fun _ => r).raise id suffix else g.modifyResource id fun _ => r

theorem traffic_putBack {r r' : Resource} (hr : g.registry.resource? id = some r)
    (hrun : ReflTransGen (Resource.Traffic touched) r r') (suffix : String) (known : Bool) :
    Traffic touched g (g.putBack id suffix r' known) := by
  have hput : Traffic touched g (g.modifyResource id fun _ => r') :=
    ⟨Registry.evolves_putBack hr hrun, rfl, rfl⟩
  unfold putBack
  split_ifs
  · exact hput.trans (traffic_raise _ id suffix)
  · exact hput

/-- A live resource that was put back has gone through no more than having its update made known. -/
theorem exists_live?_putBack {r r' : Resource} (hlive : g.registry.live? id = some r)
    (hshape : Resource.SameShape r r') (suffix : String) (known : Bool) :
    ∃ q, (g.putBack id suffix r' known).registry.live? id = some q ∧
      ReflTransGen (Resource.Traffic fun _ => False) r' q := by
  obtain ⟨hr, hdeleted⟩ := Registry.live?_eq_some_iff.mp hlive
  have hid : r'.id = id := by
    rw [Resource.id_of_frame_eq hshape.frame, Registry.id_of_resource? hr]
  have hput : (g.modifyResource id fun _ => r').registry.live? id = some r' := by
    have hlookup := g.registry.resource?_modifyResource (f := fun _ => r') (fun _ _ => hid) id
    rw [if_pos rfl, hr, Option.map_some] at hlookup
    refine Registry.live?_eq_some_iff.mpr ⟨hlookup, ?_⟩
    rw [Resource.deleted_of_frame_eq hshape.frame, hdeleted]
  unfold putBack
  split_ifs
  · exact (traffic_raise _ id suffix).exists_live? hput
  · exact ⟨r', hput, .refl⟩

/-- Putting a resource back leaves alone all of a gateway but its premises and its bus. -/
theorem exists_putBack_eq (g : Gateway) (id : ResourceId) (suffix : String) (r : Resource)
    (known : Bool) :
    ∃ premises bus, g.putBack id suffix r known = { g with toPremises := premises, bus } := by
  have hraise : ∀ g : Gateway, ∃ premises bus,
      g.raise id suffix = { g with toPremises := premises, bus } := by
    intro g
    unfold raise
    split
    · exact ⟨_, _, rfl⟩
    · split
      · exact ⟨_, _, rfl⟩
      · unfold publish push
        dsimp only
        split_ifs <;> exact ⟨_, _, rfl⟩
  unfold putBack
  split_ifs
  · obtain ⟨premises, bus, heq⟩ := hraise (g.modifyResource id fun _ => r)
    exact ⟨premises, bus, heq⟩
  · exact ⟨_, _, rfl⟩

/-! ### Setting items -/

/-- An item is set, the resource put back, and the update made known if it has to be. -/
theorem applyValue_cases {always : Bool} {o : SetOutcome}
    (h : g.applyValue id suffix v always = .ok (g', o)) :
    ∃ r r', g.registry.live? id = some r ∧ r.setValue suffix v g.now = .ok (r', o) ∧
      g' = g.putBack id suffix r' (o.isChanged || (always && o.isAccepted)) := by
  unfold applyValue at h
  split at h
  · cases h
  · rename_i r hlive
    split at h
    · cases h
    · rename_i r' outcome hset
      obtain ⟨rfl, rfl⟩ := Prod.mk.inj (Except.ok.inj h)
      exact ⟨r, r', hlive, hset, rfl⟩

theorem traffic_applyValue {always : Bool} {o : SetOutcome} (hsuffix : touched suffix)
    (h : g.applyValue id suffix v always = .ok (g', o)) : Traffic touched g g' := by
  obtain ⟨r, r', hlive, hset, rfl⟩ := applyValue_cases h
  exact traffic_putBack (Registry.live?_eq_some_iff.mp hlive).1 (.single (.set hsuffix hset)) _ _

/-- Traffic survives all that follows from a request. -/
theorem isKept_traffic (id : ResourceId) : IsKept (Traffic fun _ => True) id where
  refl g := .refl _ g
  trans h h' := h.trans h'
  set _ h := traffic_applyValue trivial h
  note _ _ := .of_eq rfl rfl

theorem traffic_applyEffect (g : Gateway) (id : ResourceId) (policy : WritePolicy)
    (previous : Option Value) (v : Value) :
    Traffic (fun _ => True) g (g.applyEffect id policy previous v) :=
  (isKept_traffic id).applyEffect g policy previous v

/-! ### Reports -/

/-- Without a confirmed target nothing follows. -/
theorem applyConfirmed_of_nil {confirmed : List StateChange}
    (h : StateChange.targetsOf confirmed = []) (g : Gateway) (id : ResourceId) :
    g.applyConfirmed id confirmed = g := by
  unfold StateChange.targetsOf at h
  unfold applyConfirmed
  rw [h, List.foldl_nil]

/-- A single confirmed target takes its effect. -/
theorem applyConfirmed_of_singleton {confirmed : List StateChange} {t : Target}
    (h : StateChange.targetsOf confirmed = [t]) (g : Gateway) (id : ResourceId) :
    g.applyConfirmed id confirmed =
      g.applyEffect id (WritePolicy.of t.suffix) t.previous t.value := by
  unfold StateChange.targetsOf at h
  unfold applyConfirmed
  rw [h, List.foldl_cons, List.foldl_nil]

/-- The resource after a report of an item was set, with the time of the last update noted if the
item belongs to the state. -/
def noteUpdate (r : Resource) (suffix : String) (now : Instant) : Resource :=
  if Suffix.category suffix = "state" && suffix ≠ Suffix.lastUpdated then r.touch now else r

/-- **What taking a report does**: the item is set, the time of the last update is noted, and the
pending changes take what the item then holds. -/
theorem takeReport_cases {r r' : Resource} {now : Instant} {o : SetOutcome}
    {confirmed : List StateChange} (h : takeReport r suffix v now = .ok (r', o, confirmed)) :
    ∃ q, r.setValue suffix v now = .ok (q, o) ∧
      (((noteUpdate q suffix now).value? suffix = none ∧ r' = noteUpdate q suffix now ∧
          confirmed = []) ∨
        ∃ x, (noteUpdate q suffix now).value? suffix = some x ∧
          r' = ((noteUpdate q suffix now).verifyReport suffix x).1 ∧
          confirmed = ((noteUpdate q suffix now).verifyReport suffix x).2) := by
  unfold takeReport at h
  split at h
  · cases h
  · rename_i q outcome hset
    dsimp only at h
    rw [← noteUpdate] at h
    split at h <;> rename_i hheld <;> obtain ⟨rfl, hrest⟩ := Prod.mk.inj (Except.ok.inj h) <;>
      obtain ⟨rfl, rfl⟩ := Prod.mk.inj hrest
    · exact ⟨q, hset, .inl ⟨hheld, rfl, rfl⟩⟩
    · exact ⟨q, hset, .inr ⟨_, hheld, rfl, rfl⟩⟩

theorem traffic_noteUpdate (hstate : Suffix.category suffix = "state" → touched Suffix.lastUpdated)
    (r : Resource) (now : Instant) :
    ReflTransGen (Resource.Traffic touched) r (noteUpdate r suffix now) := by
  unfold noteUpdate
  split_ifs with htouch
  · simp only [Bool.and_eq_true, decide_eq_true_eq] at htouch
    exact Resource.traffic_setIfFits (hstate htouch.1) r _ now
  · exact .refl

theorem traffic_takeReport {r r' : Resource} {now : Instant} {o : SetOutcome}
    {confirmed : List StateChange} (hsuffix : touched suffix)
    (hstate : Suffix.category suffix = "state" → touched Suffix.lastUpdated)
    (h : takeReport r suffix v now = .ok (r', o, confirmed)) :
    ReflTransGen (Resource.Traffic touched) r r' := by
  obtain ⟨q, hset, hheard⟩ := takeReport_cases h
  have hrun : ReflTransGen (Resource.Traffic touched) r (noteUpdate q suffix now) :=
    .head (.set hsuffix hset) (traffic_noteUpdate hstate q now)
  rcases hheard with ⟨-, rfl, -⟩ | ⟨x, -, rfl, -⟩
  · exact hrun
  · exact hrun.tail (.report _ suffix x)

/-- Taking a report fails exactly if setting the item does. -/
theorem takeReport_eq_error_iff {r : Resource} {now : Instant} (e : Error) :
    takeReport r suffix v now = .error e ↔ r.setValue suffix v now = .error e := by
  unfold takeReport
  cases r.setValue suffix v now with
  | error e' => simp
  | ok result =>
    dsimp only
    split <;> simp

/-- **A report is refused exactly** if the resource is not live, has no such item, or the value does
not fit the item. -/
theorem applyReport_eq_error_iff (e : Error) :
    g.applyReport id suffix v = .error e ↔
      (g.registry.live? id = none ∧ e = .resourceNotFound id.text) ∨
      ∃ r, g.registry.live? id = some r ∧
        ((r.item? suffix = none ∧ e = .parameterNotAvailable suffix) ∨
          ∃ item cause, r.item? suffix = some item ∧ item.type.coerce v = .error cause ∧
            e = .value cause) := by
  unfold applyReport
  cases hlive : g.registry.live? id with
  | none => simp [eq_comm]
  | some r =>
    have hset := @Resource.setValue_eq_error_iff r suffix v g.now e
    simp only [Option.some.injEq, exists_eq_left', reduceCtorEq, false_and, false_or]
    rw [← hset, ← takeReport_eq_error_iff]
    cases takeReport r suffix v g.now with
    | error e' => simp
    | ok result => simp

/-- A report is taken if the resource is live, has the item, and the value fits it. -/
theorem exists_applyReport_eq_ok {r : Resource} {item : Item} {w : Value}
    (hlive : g.registry.live? id = some r) (hitem : r.item? suffix = some item)
    (hw : item.type.coerce v = .ok w) :
    ∃ reported o, g.applyReport id suffix v = .ok (reported, o) := by
  cases happly : g.applyReport id suffix v with
  | ok result => exact ⟨result.1, result.2, rfl⟩
  | error e =>
    rcases (applyReport_eq_error_iff e).mp happly with ⟨hnone, -⟩ | ⟨r₀, hr₀, hcases⟩
    · rw [hlive] at hnone
      cases hnone
    · obtain rfl := Option.some.inj (hlive.symm.trans hr₀)
      rcases hcases with ⟨hnone, -⟩ | ⟨i, cause, hi, hcause, -⟩
      · rw [hitem] at hnone
        cases hnone
      · obtain rfl := Option.some.inj (hitem.symm.trans hi)
        rw [hw] at hcause
        cases hcause

/-- A report is taken into the resource, the resource put back, and what the confirmed changes bring
about is applied. -/
theorem applyReport_cases {o : SetOutcome} (h : g.applyReport id suffix v = .ok (g', o)) :
    ∃ r r' confirmed, g.registry.live? id = some r ∧
      takeReport r suffix v g.now = .ok (r', o, confirmed) ∧
      g' = if suffix = Suffix.lightLevel then
          ((g.putBack id suffix r' o.isChanged).applyConfirmed id confirmed).recomputeLight id
        else (g.putBack id suffix r' o.isChanged).applyConfirmed id confirmed := by
  unfold applyReport at h
  split at h
  · cases h
  · rename_i r hlive
    split at h
    · cases h
    · rename_i r' outcome confirmed htake
      obtain ⟨rfl, rfl⟩ := Prod.mk.inj (Except.ok.inj h)
      exact ⟨r, r', confirmed, hlive, htake, rfl⟩

/-- **Taking a report is traffic.** -/
theorem traffic_applyReport {o : SetOutcome} (h : g.applyReport id suffix v = .ok (g', o)) :
    Traffic (fun _ => True) g g' := by
  obtain ⟨r, r', confirmed, hlive, htake, rfl⟩ := applyReport_cases h
  have hput : Traffic (fun _ => True) g (g.putBack id suffix r' o.isChanged) :=
    traffic_putBack (Registry.live?_eq_some_iff.mp hlive).1
      (traffic_takeReport trivial (fun _ => trivial) htake) _ _
  exact hput.trans ((isKept_traffic id).afterReport _ suffix confirmed)

/-- A request to take a report, with its answer: a refused report leaves the gateway to the caller
as it was. -/
def report (g : Gateway) (id : ResourceId) (suffix : String) (v : Value) :
    Gateway × Except Error SetOutcome :=
  match g.applyReport id suffix v with
  | .ok (g', o) => (g', .ok o)
  | .error e => (g, .error e)

theorem traffic_report (g : Gateway) (id : ResourceId) (suffix : String) (v : Value) :
    Traffic (fun _ => True) g (g.report id suffix v).1 := by
  unfold report
  split
  · exact traffic_applyReport ‹_›
  · exact .refl _ g

/-! ### Sending and ticks -/

theorem traffic_sendAll (g : Gateway) (requests : List TaskRequest) :
    Traffic touched g (g.sendAll requests).1 := by
  rw [sendAll_eq]
  exact .of_eq rfl rfl

theorem traffic_dueRequests (r : Resource) (now : Instant) :
    ReflTransGen (Resource.Traffic touched) r (r.dueRequests now).1 := by
  unfold Resource.dueRequests
  split_ifs
  · exact .refl
  · split
    · exact .refl
    · exact .single (.tick r now)

theorem traffic_issuePending (g : Gateway) (id : ResourceId) :
    Traffic touched g (g.issuePending id) := by
  unfold issuePending
  split
  · exact .refl _ _
  · rename_i r hr
    have hput : Traffic touched g (g.modifyResource id fun _ => (r.dueRequests g.now).1) :=
      ⟨Registry.evolves_putBack hr (traffic_dueRequests r g.now), rfl, rfl⟩
    exact hput.trans (traffic_sendAll _ _)

/-- **A tick is traffic that touches no item.** -/
theorem traffic_tick (g : Gateway) : Traffic touched g g.tick.1 := by
  -- First the changes of live resources move on, then the requests are sent.
  have hmoved : Traffic touched g (g.mapRegistry fun registry =>
      { registry with resources := g.registry.resources.map fun r =>
          if r.deleted then r else (r.dueRequests g.now).1 }) := by
    refine ⟨Registry.evolves_map ?_ ?_, rfl, rfl⟩
    · intro r
      split_ifs
      · rfl
      · exact Resource.Traffic.id_run (@traffic_dueRequests (fun _ => True) r g.now)
    · intro r
      split_ifs
      · exact .refl
      · exact traffic_dueRequests r g.now
  exact hmoved.trans (traffic_sendAll _ _)

end ZigbeeGateway.Gateway
