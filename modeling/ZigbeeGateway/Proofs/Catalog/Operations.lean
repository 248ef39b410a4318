import ZigbeeGateway.Catalog

/-!
# What is done to a catalog

Descriptions are added one by one, loaded from texts, files and folders, or replaced all at once.
Whatever is added comes behind the others and is without faults, and whatever replaces them is
without faults too: an operation extends the catalog in its generation, or it begins a new one
(`perform_cases`).

A handle resolves in the generation that issued it, and descriptions that come behind do not change
what it resolves to (`Extends.subDevice?`, `Extends.template?`).
-/

namespace ZigbeeGateway

/-- What may be done to a catalog. -/
inductive CatalogOperation where
  | added (d : Description)
  | loaded (text : String)
  | loadedFile (tree : FileTree) (path : String)
  | loadedFolder (tree : FileTree) (path : String)
  | reloaded (ds : List Description)
  | reloadedTexts (texts : List String)

namespace Catalog

variable {c c' : Catalog} {handle : TemplateHandle} {s : SubDevice} {t : ItemTemplate}

/-- The catalog after an operation, which changes nothing if it fails. -/
def perform (c : Catalog) : CatalogOperation → Catalog
  | .added d => ((c.add d).toOption.map Prod.fst).getD c
  | .loaded text => ((c.load text).toOption.map Prod.fst).getD c
  | .loadedFile tree path => ((c.loadPath tree path).toOption.map Prod.fst).getD c
  | .loadedFolder tree path => ((c.loadFolder tree path).toOption.map Prod.fst).getD c
  | .reloaded ds => (c.reload ds).toOption.getD c
  | .reloadedTexts texts => (c.reloadTexts texts).toOption.getD c

/-- Whether an operation puts other descriptions in the place of all. -/
def replaces (c : Catalog) : CatalogOperation → Bool
  | .reloaded ds => (c.reload ds).isOk
  | .reloadedTexts texts => (c.reloadTexts texts).isOk
  | _ => false

/-! ### Descriptions that are added -/

/-- Descriptions without faults are put behind the others. -/
def Extends (c c' : Catalog) : Prop :=
  ∃ added, (∀ d ∈ added, d.fault? = none) ∧
    c' = { c with descriptions := c.descriptions ++ added }

theorem Extends.refl (c : Catalog) : Extends c c :=
  ⟨[], by simp, by rw [List.append_nil]⟩

theorem Extends.trans {c'' : Catalog} (h : Extends c c') (h' : Extends c' c'') :
    Extends c c'' := by
  obtain ⟨added, hadded, rfl⟩ := h
  obtain ⟨more, hmore, rfl⟩ := h'
  refine ⟨added ++ more, fun d hd => ?_, by rw [List.append_assoc]⟩
  exact (List.mem_append.mp hd).elim (hadded d) (hmore d)

theorem Extends.generation (h : Extends c c') : c'.generation = c.generation := by
  obtain ⟨_, -, rfl⟩ := h
  rfl

theorem Extends.forall_fault? (h : Extends c c') (hc : ∀ d ∈ c.descriptions, d.fault? = none) :
    ∀ d ∈ c'.descriptions, d.fault? = none := by
  obtain ⟨added, hadded, rfl⟩ := h
  exact fun d hd => (List.mem_append.mp hd).elim (hc d) (hadded d)

/-- A description is added if it is without faults, behind the others. -/
theorem add_eq_ok_iff {d : Description} {position : Nat} :
    c.add d = .ok (c', position) ↔ d.fault? = none ∧
      c' = { c with descriptions := c.descriptions ++ [d] } ∧
      position = c.descriptions.length := by
  unfold add
  cases hfault : d.fault? with
  | some fault => simp
  | none => simp [eq_comm]

theorem extends_add {d : Description} {position : Nat} (h : c.add d = .ok (c', position)) :
    Extends c c' := by
  obtain ⟨hfault, rfl, -⟩ := add_eq_ok_iff.mp h
  exact ⟨[d], by simpa using hfault, rfl⟩

theorem extends_load {text : String} {position : Nat} (h : c.load text = .ok (c', position)) :
    Extends c c' := by
  unfold load at h
  split at h
  · cases h
  · exact extends_add h

theorem extends_loadFile {path content : String} {position : Nat}
    (h : c.loadFile path content = .ok (c', position)) : Extends c c' := by
  unfold loadFile at h
  split at h
  · cases h
  · exact extends_add h

mutual

theorem extends_loadEntry (c : Catalog) (path name : String) :
    ∀ tree : FileTree, Extends c (c.loadEntry path name tree).1
  | .file content => by
    unfold loadEntry
    split
    · split
      · exact extends_loadFile ‹_›
      · exact .refl c
    · exact .refl c
  | .folder entries => by
    unfold loadEntry
    exact extends_loadEntries c path entries

/-- Loading the files of a folder adds descriptions. -/
theorem extends_loadEntries (c : Catalog) (path : String) :
    ∀ entries : List (String × FileTree), Extends c (c.loadEntries path entries).1
  | [] => by
    unfold loadEntries
    exact .refl c
  | (name, tree) :: rest => by
    unfold loadEntries
    exact (extends_loadEntry c _ name tree).trans (extends_loadEntries _ path rest)

end

theorem extends_loadPath {tree : FileTree} {path : String} {position : Nat}
    (h : c.loadPath tree path = .ok (c', position)) : Extends c c' := by
  unfold loadPath at h
  split at h
  · exact extends_loadFile h
  · cases h

theorem extends_loadFolder {tree : FileTree} {path : String} {count : Nat}
    (h : c.loadFolder tree path = .ok (c', count)) : Extends c c' := by
  unfold loadFolder at h
  split at h
  · rename_i entries _
    have hload := extends_loadEntries c path entries
    rwa [Except.ok.inj h] at hload
  · cases h

/-! ### Descriptions that are replaced -/

/-- All descriptions are replaced if none of the new ones has a fault, and then the generation is
raised. -/
theorem reload_eq_ok_iff {ds : List Description} :
    c.reload ds = .ok c' ↔ (∀ d ∈ ds, d.fault? = none) ∧
      c' = { descriptions := ds, generation := c.generation + 1 } := by
  rw [← List.findSome?_eq_none_iff]
  unfold reload
  cases ds.findSome? Description.fault? with
  | some fault => simp
  | none => simp [eq_comm]

theorem exists_reload_of_reloadTexts {texts : List String} (h : c.reloadTexts texts = .ok c') :
    ∃ ds, texts.mapM Description.read? = some ds ∧ c.reload ds = .ok c' := by
  unfold reloadTexts at h
  split at h
  · cases h
  · exact ⟨_, ‹_›, h⟩

/-- **An operation extends the catalog or replaces all descriptions**, and then it raises the
generation.  Descriptions with faults get in neither way. -/
theorem perform_cases (c : Catalog) (op : CatalogOperation) :
    (c.replaces op = false ∧ c.Extends (c.perform op)) ∨
      (c.replaces op = true ∧ ∃ ds, (∀ d ∈ ds, d.fault? = none) ∧
        c.perform op = { descriptions := ds, generation := c.generation + 1 }) := by
  -- Descriptions that are loaded are put behind the old ones.
  have hload : ∀ attempt : Except SchemaError (Catalog × Nat),
      (∀ c' n, attempt = .ok (c', n) → Extends c c') →
        Extends c ((attempt.toOption.map Prod.fst).getD c) := by
    intro attempt hattempt
    cases attempt with
    | error e => exact .refl c
    | ok result => exact hattempt _ _ rfl
  -- A reload that fails keeps the catalog; one that succeeds starts the next generation.
  have hreload : ∀ attempt : Except SchemaError Catalog,
      (∀ c', attempt = .ok c' → ∃ ds, c.reload ds = .ok c') →
        (attempt.isOk = false ∧ Extends c (attempt.toOption.getD c)) ∨
          (attempt.isOk = true ∧ ∃ ds, (∀ d ∈ ds, d.fault? = none) ∧
            attempt.toOption.getD c = { descriptions := ds, generation := c.generation + 1 }) := by
    intro attempt hattempt
    cases attempt with
    | error e => exact .inl ⟨rfl, .refl c⟩
    | ok c' =>
      obtain ⟨ds, hds⟩ := hattempt c' rfl
      obtain ⟨hfaults, rfl⟩ := reload_eq_ok_iff.mp hds
      exact .inr ⟨rfl, ds, hfaults, rfl⟩
  cases op with
  | added d => exact .inl ⟨rfl, hload _ fun _ _ h => extends_add h⟩
  | loaded text => exact .inl ⟨rfl, hload _ fun _ _ h => extends_load h⟩
  | loadedFile tree path => exact .inl ⟨rfl, hload _ fun _ _ h => extends_loadPath h⟩
  | loadedFolder tree path => exact .inl ⟨rfl, hload _ fun _ _ h => extends_loadFolder h⟩
  | reloaded ds => exact hreload _ fun _ h => ⟨ds, h⟩
  | reloadedTexts texts =>
    refine hreload _ fun _ h => ?_
    obtain ⟨ds, -, hds⟩ := exists_reload_of_reloadTexts h
    exact ⟨ds, hds⟩

/-! ### What a handle resolves to -/

theorem template?_eq_some_iff :
    c.template? handle = some t ↔
      ∃ s, c.subDevice? handle = some s ∧ s.items[handle.item]? = some t :=
  Option.bind_eq_some_iff

/-- A handle resolves in the generation that issued it, at its positions. -/
theorem subDevice?_eq_some_iff :
    c.subDevice? handle = some s ↔ handle.generation = c.generation ∧
      ∃ d, c.descriptions[handle.description]? = some d ∧
        d.subDevices[handle.subDevice]? = some s := by
  unfold subDevice?
  by_cases hgeneration : handle.generation = c.generation
  · simp [hgeneration, Option.bind_eq_some_iff]
  · simp [hgeneration]

theorem subDevice?_of_generation_ne (h : handle.generation ≠ c.generation) :
    c.subDevice? handle = none :=
  if_neg h

theorem generation_of_template? (h : c.template? handle = some t) :
    handle.generation = c.generation := by
  obtain ⟨s, hs, -⟩ := template?_eq_some_iff.mp h
  exact (subDevice?_eq_some_iff.mp hs).1

/-- A handle that is issued resolves to the template at its positions. -/
theorem template?_of_handle? {description subDevice item : Nat}
    (h : c.handle? description subDevice item = some handle) :
    c.template? handle = c.at? description subDevice item := by
  obtain ⟨t, -, rfl⟩ := Option.map_eq_some_iff.mp h
  unfold template? Catalog.subDevice? at?
  rw [if_pos rfl]
  cases c.descriptions[description]? <;> rfl

/-- The template at given positions. -/
theorem at?_eq_some {description k j : Nat} {desc : Description} {s : SubDevice}
    (hdesc : c.get? description = some desc) (hs : desc.subDevices[k]? = some s)
    (ht : s.items[j]? = some t) : c.at? description k j = some t := by
  unfold at?
  rw [show c.descriptions[description]? = some desc from hdesc]
  simp only [Option.bind_eq_bind, Option.bind_some, hs, ht]

/-- What a handle points into stays when descriptions are added. -/
theorem Extends.subDevice? (h : c.Extends c') (hs : c.subDevice? handle = some s) :
    c'.subDevice? handle = some s := by
  obtain ⟨added, -, rfl⟩ := h
  obtain ⟨hgeneration, d, hd, hsub⟩ := subDevice?_eq_some_iff.mp hs
  have hlength := (List.getElem?_eq_some_iff.mp hd).1
  exact subDevice?_eq_some_iff.mpr
    ⟨hgeneration, d, (List.getElem?_append_left hlength).trans hd, hsub⟩

/-- What a handle resolves to stays when descriptions are added. -/
theorem Extends.template? (h : c.Extends c') (ht : c.template? handle = some t) :
    c'.template? handle = some t := by
  obtain ⟨s, hs, hitem⟩ := template?_eq_some_iff.mp ht
  exact template?_eq_some_iff.mpr ⟨s, h.subDevice? hs, hitem⟩

end Catalog

end ZigbeeGateway
