import ZigbeeGateway.Proofs.Resource.Tags

/-!
# Stamps

An instant is *proper* if its fraction stays within the leap second.  The stamp of an accepted set
lies behind the one of the set before it (`Item.IsProper.stamp_set`), as long as stamps are proper,
and they are if the clock shows proper times.  So the stamps tell which items were set, however often:
over any number of sets, the ETag was refreshed only if some public item has a later stamp
(`Resource.Dates`).
-/

namespace ZigbeeGateway

open Relation

/-! ### Instants -/

namespace Instant

/-- The fraction of the instant stays within the leap second. -/
def IsProper (t : Instant) : Prop :=
  t.nanos < 2 * nanosPerSecond

instance (t : Instant) : Decidable t.IsProper :=
  inferInstanceAs (Decidable (_ < _))

/-- The order of stamps: what was never set comes before all that was. -/
def Later : Option Instant → Option Instant → Prop
  | _, none => False
  | none, some _ => True
  | some t, some t' => t.before t' = true

theorem before_iff {t t' : Instant} : t.before t' = true ↔
    t.seconds < t'.seconds ∨ t.seconds = t'.seconds ∧ t.nanos < t'.nanos := by
  unfold before
  simp

theorem Later.irrefl (stamp : Option Instant) : ¬ Later stamp stamp := by
  cases stamp with
  | none => exact fun h => h
  | some t =>
    intro h
    have hbefore := before_iff.mp h
    omega

theorem Later.trans {a b c : Option Instant} (h : Later a b) (h' : Later b c) : Later a c := by
  cases c with
  | none => exact h'
  | some t'' =>
    cases b with
    | none => exact h.elim
    | some t' =>
      cases a with
      | none => trivial
      | some t =>
        have hbefore := before_iff.mp h
        have hbefore' := before_iff.mp h'
        exact before_iff.mpr (by omega)

theorem IsProper.before_addMicrosecond {t : Instant} (h : t.IsProper) :
    t.before t.addMicrosecond = true := by
  rw [before_iff]
  unfold IsProper at h
  unfold addMicrosecond addNanos nanosPerSecond at *
  split_ifs with hleap
  · exact .inr ⟨rfl, by dsimp only; omega⟩
  · dsimp only
    -- Either the second goes on, or it is full and the next one begins.
    by_cases hfull : t.nanos % 1000000000 + 1000 < 1000000000
    · refine .inr ⟨?_, ?_⟩ <;> omega
    · exact .inl (by omega)

theorem isProper_addMicrosecond (t : Instant) : t.addMicrosecond.IsProper := by
  unfold IsProper addMicrosecond addNanos nanosPerSecond
  split_ifs with hleap
  · exact hleap.2
  · dsimp only
    omega

theorem isProper_of_ofMillis? {millis : Int} {t : Instant} (h : ofMillis? millis = some t) :
    t.IsProper := by
  unfold ofMillis? at h
  dsimp only at h
  split_ifs at h
  obtain rfl := Option.some.inj h
  unfold IsProper nanosPerSecond
  dsimp only
  omega

end Instant

/-! ### Items -/

namespace Item

variable {item item' : Item} {v : Value} {now : Instant} {o : SetOutcome}

/-- The stamp of the item, if it has one, is proper. -/
def IsProper (item : Item) : Prop :=
  ∀ t, item.lastSet = some t → t.IsProper

theorem isProper_nextStamp (hnow : now.IsProper) (previous : Option Instant) :
    (nextStamp previous now).IsProper := by
  unfold nextStamp
  split
  · split_ifs
    · exact hnow
    · exact Instant.isProper_addMicrosecond _
  · exact hnow

/-- **The next stamp is later**, whatever the clock shows. -/
theorem IsProper.later_nextStamp (hitem : item.IsProper) (now : Instant) :
    Instant.Later item.lastSet (some (nextStamp item.lastSet now)) := by
  cases hlast : item.lastSet with
  | none => trivial
  | some t =>
    show t.before (if t.before now then now else t.addMicrosecond) = true
    split_ifs with hbefore
    · exact hbefore
    · exact (hitem t hlast).before_addMicrosecond

/-- The stamp stays if the set is ignored, and it is later if the set is accepted. -/
theorem IsProper.stamp_set (hitem : item.IsProper) (h : item.set v now = .ok (item', o)) :
    o.isAccepted = false ∧ item'.lastSet = item.lastSet ∨
      Instant.Later item.lastSet item'.lastSet := by
  have hlater := hitem.later_nextStamp now
  obtain ⟨w, -, ⟨rfl, -, rfl⟩ | ⟨-, -, rfl⟩ | ⟨-, -, rfl⟩⟩ := set_cases h
  · exact .inl ⟨rfl, rfl⟩
  · exact .inr hlater
  · exact .inr hlater

theorem IsProper.set (hitem : item.IsProper) (hnow : now.IsProper)
    (h : item.set v now = .ok (item', o)) : item'.IsProper := by
  have hstamp := isProper_nextStamp hnow item.lastSet
  obtain ⟨w, -, ⟨-, -, rfl⟩ | ⟨-, -, rfl⟩ | ⟨-, -, rfl⟩⟩ := set_cases h
  · exact hitem
  · intro t ht
    exact Option.some.inj ht ▸ hstamp
  · intro t ht
    exact Option.some.inj ht ▸ hstamp

theorem IsProper.setIfFits (hitem : item.IsProper) (hnow : now.IsProper) (v : Value) :
    (item.setIfFits v now).IsProper := by
  unfold Item.setIfFits
  split
  · exact hitem.set hnow ‹_›
  · exact hitem

end Item

/-! ### Resources -/

namespace Resource

variable {r r' r'' : Resource} {suffix s : String} {v : Value} {now : Instant} {o : SetOutcome}

/-- All stamps are proper. -/
def IsProper (r : Resource) : Prop :=
  ∀ s item, r.item? s = some item → item.IsProper

/-- When the item with a name was last set. -/
def stamp? (r : Resource) (s : String) : Option Instant :=
  (r.item? s).bind Item.lastSet

/-- Whether the item with a name is there and public. -/
def shows (r : Resource) (s : String) : Bool :=
  (r.item? s).any Item.isPublic

theorem stamp?_of_content_eq (h : r'.content = r.content) (s : String) :
    r'.stamp? s = r.stamp? s := by
  refine eq_of_content_eq (·.stamp? s) (fun r => ?_) h
  rw [stamp?, stamp?, item?_content]
  cases r.item? s <;> rfl

theorem shows_of_content_eq (h : r'.content = r.content) (s : String) :
    r'.shows s = r.shows s := by
  refine eq_of_content_eq (·.shows s) (fun r => ?_) h
  rw [shows, shows, item?_content]
  cases r.item? s <;> rfl

theorem isProper_iff : r.IsProper ↔ ∀ s t, r.stamp? s = some t → t.IsProper := by
  simp only [IsProper, Item.IsProper, stamp?, Option.bind_eq_some_iff]
  exact ⟨fun h s t ⟨item, hitem, ht⟩ => h s item hitem t ht,
    fun h s item hitem t ht => h s t ⟨item, hitem, ht⟩⟩

theorem IsProper.of_content_eq (hr : r.IsProper) (h : r'.content = r.content) : r'.IsProper := by
  rw [isProper_iff] at hr ⊢
  intro s t ht
  exact hr s t (stamp?_of_content_eq h s ▸ ht)

theorem IsProper.setValue (hr : r.IsProper) (hnow : now.IsProper)
    (h : r.setValue suffix v now = .ok (r', o)) : r'.IsProper := by
  obtain ⟨item, item', hitem, hset, hitems⟩ := item?_setValue h
  intro s i hi
  rw [hitems] at hi
  split_ifs at hi
  · exact Option.some.inj hi ▸ (hr suffix item hitem).set hnow hset
  · exact hr s i hi

theorem IsProper.setIfFits (hr : r.IsProper) (hnow : now.IsProper) (suffix : String) (v : Value) :
    (r.setIfFits suffix v now).IsProper := by
  unfold Resource.setIfFits
  split
  · exact hr.setValue hnow ‹_›
  · exact hr

/-- A later state of a resource, as its stamps tell: none goes back, and the ETag is the old one
unless some public item has a later stamp. -/
structure Dates (r r' : Resource) : Prop where
  shows : ∀ s, r'.shows s = r.shows s
  stamp : ∀ s, r'.stamp? s = r.stamp? s ∨ Instant.Later (r.stamp? s) (r'.stamp? s)
  tag : r'.revision = r.revision ∧ r'.etag = r.etag ∨
    ∃ s, r.shows s = true ∧ Instant.Later (r.stamp? s) (r'.stamp? s)

namespace Dates

theorem of_content_eq (h : r'.content = r.content) : Dates r r' :=
  ⟨shows_of_content_eq h, fun s => .inl (stamp?_of_content_eq h s),
    .inl ⟨eq_of_content_eq Resource.revision (fun _ => rfl) h,
      eq_of_content_eq Resource.etag (fun _ => rfl) h⟩⟩

theorem trans (h : Dates r r') (h' : Dates r' r'') : Dates r r'' := by
  refine ⟨fun s => (h'.shows s).trans (h.shows s), fun s => ?_, ?_⟩
  · rcases h.stamp s with hsame | hlater
    · exact hsame ▸ h'.stamp s
    · rcases h'.stamp s with hsame' | hlater'
      · exact .inr (hsame' ▸ hlater)
      · exact .inr (hlater.trans hlater')
  · rcases h.tag with ⟨hrevision, hetag⟩ | ⟨s, hshows, hlater⟩
    · rcases h'.tag with ⟨hrevision', hetag'⟩ | ⟨s, hshows, hlater⟩
      · exact .inl ⟨hrevision'.trans hrevision, hetag'.trans hetag⟩
      · refine .inr ⟨s, (h.shows s).symm.trans hshows, ?_⟩
        rcases h.stamp s with hsame | hlater'
        · exact hsame ▸ hlater
        · exact hlater'.trans hlater
    · refine .inr ⟨s, hshows, ?_⟩
      rcases h'.stamp s with hsame | hlater'
      · exact hsame ▸ hlater
      · exact hlater.trans hlater'

/-- **If no public item has a new stamp, the ETag is the old one.** -/
theorem tag_of_stamps (h : Dates r r')
    (hstamps : ∀ s, r.shows s = true → r'.stamp? s = r.stamp? s) :
    r'.revision = r.revision ∧ r'.etag = r.etag := by
  refine h.tag.resolve_right ?_
  rintro ⟨s, hshows, hlater⟩
  rw [hstamps s hshows] at hlater
  exact Instant.Later.irrefl _ hlater

end Dates

/-- **A set dates**: a refreshed ETag shows in the stamp of the item. -/
theorem IsProper.dates_setValue (hr : r.IsProper) (h : r.setValue suffix v now = .ok (r', o)) :
    Dates r r' := by
  obtain ⟨item, item', hitem, hset, hitems⟩ := item?_setValue h
  have hsetStamp := (hr suffix item hitem).stamp_set hset
  have hpublic := Item.isPublic_of_shape_eq (Item.set_shape hset)
  have hstamp : r.stamp? suffix = item.lastSet := by rw [stamp?, hitem, Option.bind_some]
  have hstamp' : r'.stamp? suffix = item'.lastSet := by
    rw [stamp?, hitems, if_pos rfl, Option.bind_some]
  rw [← hstamp, ← hstamp'] at hsetStamp
  refine ⟨fun s => ?_, fun s => ?_, ?_⟩
  · rw [shows, hitems, shows]
    split_ifs with hs
    · rw [hs, hitem, Option.any_some, Option.any_some, hpublic]
    · rfl
  · by_cases hs : s = suffix
    · rw [hs]
      exact hsetStamp.imp And.right fun h => h
    · exact .inl (by rw [stamp?, hitems, if_neg hs, stamp?])
  · -- The tag is computed anew exactly if a public item was stamped.
    obtain ⟨item₀, item₀', hitem₀, hset₀, hr'⟩ := setValue_eq h
    obtain rfl := Option.some.inj (hitem.symm.trans hitem₀)
    split_ifs at hr' with hrefresh
    · rw [Bool.and_eq_true] at hrefresh
      refine .inr ⟨suffix, ?_, hsetStamp.resolve_left fun h => ?_⟩
      · rw [shows, hitem, Option.any_some, hrefresh.2]
      · rw [hrefresh.1] at h
        cases h.1
    · rw [hr']
      exact .inl ⟨rfl, rfl⟩

theorem IsProper.dates_setIfFits (hr : r.IsProper) (suffix : String) (v : Value) (now : Instant) :
    Dates r (r.setIfFits suffix v now) := by
  unfold Resource.setIfFits
  split
  · exact hr.dates_setValue ‹_›
  · exact .of_content_eq rfl

end Resource

end ZigbeeGateway
