import Mathlib.Tactic.Common
import ZigbeeGateway.Proofs.Catalog.Operations

/-!
# How long a handle is good

A catalog counts its reloads modulo `2 ^ 32`, and a handle keeps the count at which it was issued.
So a handle resolves until the catalog is reloaded, to the sub-resource and the template for which it
was issued, and it does not resolve afterwards until the count has gone round
(`handle_resolves_until_reload`).  Attempts that fail do not count: they fail exactly if something
that they are to take in cannot be read or has a fault (`isOk_attempt_iff`), wherever it stands, and
leave the catalog as it was.

`generation_performAll` counts the reloads of a history.  Between two of them the catalog only grows
(`extends_performAll`), and it never holds a description with a fault (`forall_fault?_performAll`).
-/

namespace ZigbeeGateway

/-! ### What can be taken in -/

/-- A text is that of a description without faults. -/
def Description.IsReadable (text : String) : Prop :=
  ∃ d, Description.read? text = some d ∧ d.fault? = none

/-- Everything that an operation is to take in can be read and is without faults.  A folder has only to
be there, as what is improper in it is passed over. -/
def CatalogOperation.IsProper : CatalogOperation → Prop
  | .added d => d.fault? = none
  | .loaded text => Description.IsReadable text
  | .loadedFile tree path =>
    ∃ content, tree.find? path = some (.file content) ∧ Description.IsReadable content
  | .loadedFolder tree path => ∃ entries, tree.find? path = some (.folder entries)
  | .reloaded ds => ∀ d ∈ ds, d.fault? = none
  | .reloadedTexts texts => ∀ text ∈ texts, Description.IsReadable text

namespace Catalog

variable {c c' : Catalog} {handle : TemplateHandle}

/-- The answer of an operation, without the positions of what was added. -/
def attempt (c : Catalog) : CatalogOperation → Except SchemaError Catalog
  | .added d => (c.add d).map Prod.fst
  | .loaded text => (c.load text).map Prod.fst
  | .loadedFile tree path => (c.loadPath tree path).map Prod.fst
  | .loadedFolder tree path => (c.loadFolder tree path).map Prod.fst
  | .reloaded ds => c.reload ds
  | .reloadedTexts texts => c.reloadTexts texts

theorem perform_eq_attempt (c : Catalog) (op : CatalogOperation) :
    c.perform op = (c.attempt op).toOption.getD c := by
  have hmap : ∀ answer : Except SchemaError (Catalog × Nat),
      (answer.toOption.map Prod.fst).getD c = (answer.map Prod.fst).toOption.getD c := by
    intro answer
    cases answer <;> rfl
  cases op with
  | added d => exact hmap _
  | loaded text => exact hmap _
  | loadedFile tree path => exact hmap _
  | loadedFolder tree path => exact hmap _
  | reloaded ds => rfl
  | reloadedTexts texts => rfl

/-! ### What fails -/

theorem isOk_map_fst {answer : Except SchemaError (Catalog × Nat)} :
    (answer.map Prod.fst).isOk = answer.isOk := by
  cases answer <;> rfl

theorem isOk_add_iff {d : Description} : (c.add d).isOk ↔ d.fault? = none := by
  unfold add
  cases d.fault? <;> simp [Except.isOk, Except.toBool]

theorem isOk_load_iff {text : String} : (c.load text).isOk ↔ Description.IsReadable text := by
  unfold load Description.IsReadable
  cases Description.read? text with
  | none => simp [Except.isOk, Except.toBool]
  | some d => simp [isOk_add_iff]

/-- Where a description comes from is no fault. -/
theorem isOk_loadFile_iff {path content : String} :
    (c.loadFile path content).isOk ↔ Description.IsReadable content := by
  unfold loadFile Description.IsReadable
  cases Description.read? content with
  | none => simp [Except.isOk, Except.toBool]
  | some d =>
    simp only [isOk_add_iff, Option.some.injEq, exists_eq_left']
    rfl

theorem isOk_reload_iff {ds : List Description} :
    (c.reload ds).isOk ↔ ∀ d ∈ ds, d.fault? = none := by
  rw [← List.findSome?_eq_none_iff]
  unfold reload
  cases ds.findSome? Description.fault? <;> simp [Except.isOk, Except.toBool]

theorem isOk_reloadTexts_iff {texts : List String} :
    (c.reloadTexts texts).isOk ↔ ∀ text ∈ texts, Description.IsReadable text := by
  have hread : (∃ ds, texts.mapM Description.read? = some ds ∧ ∀ d ∈ ds, d.fault? = none) ↔
      ∀ text ∈ texts, Description.IsReadable text := by
    induction texts with
    | nil => simp
    | cons text rest ih =>
      rw [List.forall_mem_cons, ← ih, Description.IsReadable, List.mapM_cons]
      cases Description.read? text with
      | none => simp
      | some d => cases rest.mapM Description.read? <;> simp
  rw [← hread]
  unfold reloadTexts
  cases texts.mapM Description.read? with
  | none => simp [Except.isOk, Except.toBool]
  | some ds => simp [isOk_reload_iff]

/-- **An operation succeeds exactly if it is proper**, whatever the catalog holds: it fails if one of the
descriptions that it is to take in cannot be read or has a fault, wherever that one stands. -/
theorem isOk_attempt_iff {op : CatalogOperation} : (c.attempt op).isOk ↔ op.IsProper := by
  cases op with
  | added d => exact isOk_map_fst ▸ isOk_add_iff
  | loaded text => exact isOk_map_fst ▸ isOk_load_iff
  | loadedFile tree path =>
    rw [attempt, isOk_map_fst, CatalogOperation.IsProper, loadPath]
    split
    · simp [isOk_loadFile_iff, *]
    · simp_all [Except.isOk, Except.toBool]
  | loadedFolder tree path =>
    rw [attempt, isOk_map_fst, CatalogOperation.IsProper, loadFolder]
    split
    · simp [Except.isOk, Except.toBool, *]
    · simp_all [Except.isOk, Except.toBool]
  | reloaded ds => exact isOk_reload_iff
  | reloadedTexts texts => exact isOk_reloadTexts_iff

/-- What is proper gives another catalog, and what is not gives an error and changes nothing. -/
theorem attempt_cases (c : Catalog) (op : CatalogOperation) :
    (op.IsProper ∧ c.attempt op = .ok (c.perform op)) ∨
      (¬ op.IsProper ∧ ∃ e, c.attempt op = .error e ∧ c.perform op = c) := by
  rw [← isOk_attempt_iff (c := c), perform_eq_attempt]
  cases c.attempt op with
  | ok c' => exact .inl ⟨rfl, rfl⟩
  | error e => exact .inr ⟨Bool.false_ne_true, e, rfl, rfl⟩

/-! ### Histories -/

/-- The catalog after some operations. -/
def performAll (c : Catalog) (ops : List CatalogOperation) : Catalog :=
  ops.foldl perform c

/-- How many of some operations put other descriptions in the place of all. -/
def reloads (c : Catalog) : List CatalogOperation → Nat
  | [] => 0
  | op :: rest => (if c.replaces op then 1 else 0) + (c.perform op).reloads rest

/-- **The generation counts the reloads.** -/
theorem generation_performAll (c : Catalog) (ops : List CatalogOperation) :
    (c.performAll ops).generation = c.generation + UInt32.ofNat (c.reloads ops) := by
  induction ops generalizing c with
  | nil => exact (UInt32.add_zero _).symm
  | cons op rest ih =>
    rw [performAll, List.foldl_cons, ← performAll, ih, reloads, UInt32.ofNat_add, ← UInt32.add_assoc]
    rcases c.perform_cases op with ⟨hkeeps, hextends⟩ | ⟨hreplaces, ds, -, hperform⟩
    · rw [hkeeps, hextends.generation]
      exact congrArg (· + _) (UInt32.add_zero _).symm
    · rw [hreplaces, hperform]
      rfl

/-- Without a reload the catalog only grows. -/
theorem extends_performAll {ops : List CatalogOperation} (h : c.reloads ops = 0) :
    c.Extends (c.performAll ops) := by
  induction ops generalizing c with
  | nil => exact .refl c
  | cons op rest ih =>
    rw [reloads, Nat.add_eq_zero_iff] at h
    rcases c.perform_cases op with ⟨-, hextends⟩ | ⟨hreplaces, -⟩
    · exact hextends.trans (ih h.2)
    · rw [hreplaces] at h
      cases h.1

/-- **Descriptions with faults never get in.** -/
theorem forall_fault?_performAll (ops : List CatalogOperation)
    (h : ∀ d ∈ c.descriptions, d.fault? = none) :
    ∀ d ∈ (c.performAll ops).descriptions, d.fault? = none := by
  induction ops generalizing c with
  | nil => exact h
  | cons op rest ih =>
    refine ih ?_
    rcases c.perform_cases op with ⟨-, hextends⟩ | ⟨-, ds, hds, hperform⟩
    · exact hextends.forall_fault? h
    · rw [hperform]
      exact hds

/-! ### Handles -/

/-- A handle is issued where there is a template. -/
theorem exists_of_handle? {k j i : Nat} (h : c.handle? k j i = some handle) :
    ∃ d s t, c.get? k = some d ∧ d.subDevices[j]? = some s ∧ s.items[i]? = some t ∧
      handle = { generation := c.generation, description := k, subDevice := j, item := i } := by
  obtain ⟨t, ht, rfl⟩ := Option.map_eq_some_iff.mp h
  obtain ⟨d, hd, ht⟩ := Option.bind_eq_some_iff.mp ht
  obtain ⟨s, hs, ht⟩ := Option.bind_eq_some_iff.mp ht
  exact ⟨d, s, t, hd, hs, ht, rfl⟩

/-- Fewer than `2 ^ 32` reloads give another generation, unless there are none. -/
theorem generation_performAll_ne {ops : List CatalogOperation} (h : c.reloads ops ≠ 0)
    (hfew : c.reloads ops < 2 ^ 32) : c.generation ≠ (c.performAll ops).generation := by
  rw [generation_performAll]
  intro hsame
  have hzero : UInt32.ofNat (c.reloads ops) = UInt32.ofNat 0 :=
    (UInt32.add_right_inj c.generation).mp (hsame.symm.trans (UInt32.add_zero _).symm)
  have hnat := congrArg UInt32.toNat hzero
  rw [UInt32.toNat_ofNat_of_lt' hfew] at hnat
  exact h hnat

/-- **A handle is good until the catalog is reloaded.**  Take a catalog at any point of its history and
at any later one, with fewer than `2 ^ 32` reloads between them.  A handle that was issued at the first
point resolves at the second exactly if there was no reload, and then to the sub-resource and the
template for which it was issued, whatever was added.  An operation that is not proper fails and
changes nothing, so it counts for nothing here.  No description that the catalog holds has a fault. -/
theorem handle_resolves_until_reload (history later : List CatalogOperation)
    (hfew : (performAll {} history).reloads later < 2 ^ 32) :
    let issuing := performAll {} history
    let now := issuing.performAll later
    (∀ k j i handle, issuing.handle? k j i = some handle →
      ∃ d s t, issuing.get? k = some d ∧ d.subDevices[j]? = some s ∧ s.items[i]? = some t ∧
        now.subDevice? handle = (if issuing.reloads later = 0 then some s else none) ∧
        now.template? handle = (if issuing.reloads later = 0 then some t else none)) ∧
    (∀ op, (op.IsProper ∧ now.attempt op = .ok (now.perform op)) ∨
      (¬ op.IsProper ∧ ∃ e, now.attempt op = .error e ∧ now.perform op = now)) ∧
    ∀ d ∈ now.descriptions, d.fault? = none := by
  intro issuing now
  refine ⟨fun k j i handle hhandle => ?_, now.attempt_cases, ?_⟩
  · obtain ⟨d, s, t, hd, hs, ht, hpositions⟩ := exists_of_handle? hhandle
    refine ⟨d, s, t, hd, hs, ht, ?_⟩
    split_ifs with hreloads
    · -- Descriptions came only behind the others.
      have hissued : issuing.subDevice? handle = some s := by
        rw [subDevice?_eq_some_iff, hpositions]
        exact ⟨rfl, d, hd, hs⟩
      have hsub : now.subDevice? handle = some s := (extends_performAll hreloads).subDevice? hissued
      refine ⟨hsub, template?_eq_some_iff.mpr ⟨s, hsub, ?_⟩⟩
      rw [hpositions]
      exact ht
    · have hstale : handle.generation ≠ now.generation := by
        rw [hpositions]
        exact generation_performAll_ne hreloads hfew
      have hnone := subDevice?_of_generation_ne hstale
      refine ⟨hnone, ?_⟩
      rw [template?, hnone, Option.bind_none]
  · refine forall_fault?_performAll later (forall_fault?_performAll history ?_)
    simp

/-- The part of a plug that measures what is consumed. -/
def consumption : SubDevice :=
  { typeName := "ZHAConsumption", restPath := "/sensors", addressing := ["01"],
    items := [{ name := Suffix.lastUpdated }, { name := Suffix.offset }] }

/-- A plug. -/
def plug : Description :=
  { manufacturerNames := ["LUMI"], modelIds := ["lumi.plug*"], subDevices := [consumption] }

/-- A description of no device. -/
def nameless : Description :=
  { plug with manufacturerNames := [] }

/-- The handle of the offset of a plug resolves after another plug was added, a description with a fault
was not, and a reload failed at its last description.  It does not resolve after the next reload,
though the same plug is in the catalog then. -/
theorem handle_of_plug_resolves_until_reload :
    let issuing := performAll {} [.added plug]
    let growing : List CatalogOperation := [.added nameless, .added plug, .reloaded [plug, nameless]]
    let later := growing ++ [.reloaded [plug]]
    issuing.reloads growing = 0 ∧ issuing.reloads later = 1 ∧
      ∃ handle ∈ issuing.handle? 0 0 1, ∃ t ∈ issuing.at? 0 0 1, t.name = Suffix.offset ∧
        (issuing.performAll growing).template? handle = some t ∧
        (issuing.performAll later).template? handle = none := by
  intro issuing growing later
  have hnone : issuing.reloads growing = 0 := by decide +kernel
  have hone : issuing.reloads later = 1 := by decide +kernel
  have hname : (issuing.at? 0 0 1).map (·.name) = some Suffix.offset := by decide +kernel
  obtain ⟨t, hat, hname⟩ := Option.map_eq_some_iff.mp hname
  obtain ⟨handle, hhandle⟩ : ∃ handle, issuing.handle? 0 0 1 = some handle :=
    ⟨_, congrArg (Option.map _) hat⟩
  have hgrown := handle_resolves_until_reload [.added plug] growing (by rw [hnone]; decide)
  have hreloaded := handle_resolves_until_reload [.added plug] later (by rw [hone]; decide)
  obtain ⟨d, s, t', hd, hs, ht, -, hgood⟩ := hgrown.1 0 0 1 handle hhandle
  obtain ⟨_, _, _, -, -, -, -, hstale⟩ := hreloaded.1 0 0 1 handle hhandle
  obtain rfl := Option.some.inj (hat.symm.trans (at?_eq_some hd hs ht))
  refine ⟨hnone, hone, handle, hhandle, t, hat, hname, hgood.trans (if_pos hnone),
    hstale.trans (if_neg ?_)⟩
  rw [hone]
  decide

end Catalog

end ZigbeeGateway
