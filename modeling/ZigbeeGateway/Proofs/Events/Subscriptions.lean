import Mathlib.Data.List.Nodup
import Mathlib.Data.List.Perm.Basic
import ZigbeeGateway.Events.Subscriptions
import ZigbeeGateway.Proofs.KeyedList
import ZigbeeGateway.Proofs.Runs

/-!
# Delivery to subscribers

All that happens to subscriptions is recorded in one log, be it asked for from outside or by a callback
in the middle of a dispatch.  The log alone says which subscriptions are *in force*: those that were
issued and not removed, in the order in which they were issued (`SubscriptionRecord.inForce`).

The two kinds of callbacks are what is in force, divided (`Subscriptions.Explains`), and sorting by
number puts them together again (`Explains.matching_eq`).  Every request keeps this, and hence every
dispatch does, whatever its callbacks ask for.  So a dispatch calls just those that were in force when
it started and wait for its event, each once and in order (`Subscriptions.dispatch_calls_subscribers`).
-/

namespace ZigbeeGateway

/-- A subscription as it was asked for. -/
structure Subscription (κ : Type) where
  id : SubscriptionId
  /-- The only suffix that the callback waits for, or none if it waits for all. -/
  filter : Option String
  callback : κ

namespace Subscription

variable {κ : Type}

/-- Whether a subscription waits for an event. -/
def wants (e : Event) (sub : Subscription κ) : Bool :=
  sub.filter.all (· = e.suffix)

/-- What is called, with its number. -/
def target (sub : Subscription κ) : SubscriptionId × κ :=
  (sub.id, sub.callback)

/-- The entry among the callbacks for all events. -/
def general? (sub : Subscription κ) : Option (SubscriptionId × κ) :=
  match sub.filter with
  | none => some sub.target
  | some _ => none

/-- The entry among the callbacks for one suffix. -/
def specific? (sub : Subscription κ) : Option (SubscriptionId × String × κ) :=
  sub.filter.map fun suffix => (sub.id, suffix, sub.callback)

theorem general?_eq_some_iff {sub : Subscription κ} {entry : SubscriptionId × κ} :
    sub.general? = some entry ↔ sub.filter = none ∧ sub.target = entry := by
  unfold general?
  cases sub.filter <;> simp

theorem specific?_eq_some_iff {sub : Subscription κ} {entry : SubscriptionId × String × κ} :
    sub.specific? = some entry ↔
      ∃ suffix, sub.filter = some suffix ∧ (sub.id, suffix, sub.callback) = entry := by
  simp [specific?]

end Subscription

/-! ### What a log says -/

namespace SubscriptionRecord

variable {κ : Type} {log : List (SubscriptionRecord κ)} {id : SubscriptionId}

/-- The subscription that was issued. -/
def issued? : SubscriptionRecord κ → Option (Subscription κ)
  | .subscribed id filter callback => some ⟨id, filter, callback⟩
  | .called _ _ | .unsubscribed _ _ => none

/-- The subscription that was removed, if there was one. -/
def removed? : SubscriptionRecord κ → Option SubscriptionId
  | .unsubscribed id true => some id
  | .unsubscribed _ false | .called _ _ | .subscribed _ _ _ => none

/-- The callback that was called. -/
def call? : SubscriptionRecord κ → Option (SubscriptionId × κ)
  | .called id callback => some (id, callback)
  | .subscribed _ _ _ | .unsubscribed _ _ => none

/-- The subscriptions that were issued, in order. -/
def issued (log : List (SubscriptionRecord κ)) : List (Subscription κ) :=
  log.filterMap issued?

/-- The numbers of the subscriptions that were removed. -/
def removed (log : List (SubscriptionRecord κ)) : List SubscriptionId :=
  log.filterMap removed?

/-- The subscriptions that were issued and not removed, in the order in which they were issued. -/
def inForce (log : List (SubscriptionRecord κ)) : List (Subscription κ) :=
  (issued log).filter (·.id ∉ removed log)

/-- The callbacks that were called, in order. -/
def calls (log : List (SubscriptionRecord κ)) : List (SubscriptionId × κ) :=
  log.filterMap call?

theorem issued_append (log records : List (SubscriptionRecord κ)) :
    issued (log ++ records) = issued log ++ issued records :=
  List.filterMap_append

theorem removed_append (log records : List (SubscriptionRecord κ)) :
    removed (log ++ records) = removed log ++ removed records :=
  List.filterMap_append

theorem mem_inForce {sub : Subscription κ} :
    sub ∈ inForce log ↔ sub ∈ issued log ∧ sub.id ∉ removed log := by
  simp [inForce]

/-- A call issues and removes nothing. -/
theorem issued_called (log : List (SubscriptionRecord κ)) (id : SubscriptionId) (callback : κ) :
    issued (log ++ [.called id callback]) = issued log := by
  simp [issued, List.filterMap_cons, issued?]

theorem removed_called (log : List (SubscriptionRecord κ)) (id : SubscriptionId) (callback : κ) :
    removed (log ++ [.called id callback]) = removed log := by
  simp [removed, List.filterMap_cons, removed?]

theorem inForce_called (log : List (SubscriptionRecord κ)) (id : SubscriptionId) (callback : κ) :
    inForce (log ++ [.called id callback]) = inForce log := by
  rw [inForce, issued_called, removed_called, inForce]

theorem inForce_subscribed (h : id ∉ removed log) (filter : Option String) (callback : κ) :
    inForce (log ++ [.subscribed id filter callback]) = inForce log ++ [⟨id, filter, callback⟩] := by
  have hissued : issued [.subscribed id filter callback] = [⟨id, filter, callback⟩] := rfl
  have hremoved : removed [.subscribed id filter callback] = [] := rfl
  rw [inForce, issued_append, removed_append, hissued, hremoved, List.append_nil, List.filter_append]
  simp [inForce, h]

/-- What is removed is in force no longer, and all else stays so. -/
theorem inForce_unsubscribed {found : Bool} (h : found = true ↔ ∃ sub ∈ inForce log, sub.id = id) :
    inForce (log ++ [.unsubscribed id found]) = (inForce log).filter (·.id ≠ id) := by
  have hissued : issued ([.unsubscribed id found] : List (SubscriptionRecord κ)) = [] := rfl
  rw [inForce, issued_append, removed_append, hissued, List.append_nil]
  cases found with
  | true =>
    have hremoved : removed ([.unsubscribed id true] : List (SubscriptionRecord κ)) = [id] := rfl
    rw [hremoved, inForce, List.filter_filter]
    simp [Bool.and_comm]
  | false =>
    have hremoved : removed ([.unsubscribed id false] : List (SubscriptionRecord κ)) = [] := rfl
    rw [hremoved, List.append_nil]
    symm
    apply List.filter_eq_self.mpr
    intro sub hsub
    have hnone := mt h.mpr (by simp)
    simpa using fun heq => hnone ⟨sub, hsub, heq⟩

end SubscriptionRecord

namespace Subscriptions

open SubscriptionRecord

variable {κ : Type} {s : Subscriptions κ} {log : List (SubscriptionRecord κ)}

/-! ### What a log explains -/

/-- The log explains the subscriptions: each kind holds what is in force of it, numbers were issued in
rising order and the next one is greater than all others, and a removal found what was issued and not
yet removed. -/
structure Explains (s : Subscriptions κ) (log : List (SubscriptionRecord κ)) : Prop where
  general : s.general = (inForce log).filterMap Subscription.general?
  specific : s.specific = (inForce log).filterMap Subscription.specific?
  ordered : (issued log).Pairwise (·.id.value < ·.id.value)
  issued_lt : ∀ sub ∈ issued log, sub.id.value < s.nextId
  removed_lt : ∀ id ∈ removed log, id.value < s.nextId
  answers : EachEntry (fun before record => ∀ id found, record = .unsubscribed id found →
    (found = true ↔ id ∈ (issued before).map (·.id) ∧ id ∉ removed before)) log

theorem explains_empty : Explains ({} : Subscriptions κ) [] :=
  ⟨rfl, rfl, .nil, by simp [issued], by simp [removed], .nil⟩

namespace Explains

theorem nodup_issued (h : Explains s log) : ((issued log).map (·.id)).Nodup := by
  rw [List.Nodup, List.pairwise_map]
  exact h.ordered.imp fun hlt heq => by rw [heq] at hlt; omega

/-- No two subscriptions share a number. -/
theorem eq_of_id_eq (h : Explains s log) {sub sub' : Subscription κ} (hsub : sub ∈ inForce log)
    (hsub' : sub' ∈ inForce log) (heq : sub.id = sub'.id) : sub = sub' :=
  List.inj_on_of_nodup_map h.nodup_issued (mem_inForce.mp hsub).1 (mem_inForce.mp hsub').1 heq

/-- The two kinds make up what is in force. -/
theorem size_eq (h : Explains s log) : s.size = (inForce log).length := by
  rw [size, h.general, h.specific]
  induction inForce log with
  | nil => rfl
  | cons sub subs ih =>
    cases hfilter : sub.filter <;>
      simp [Subscription.general?, Subscription.specific?, hfilter] at ih ⊢ <;> omega

theorem mem_general_iff (h : Explains s log) {entry : SubscriptionId × κ} :
    entry ∈ s.general ↔ ∃ sub ∈ inForce log, sub.filter = none ∧ sub.target = entry := by
  simp [h.general, Subscription.general?_eq_some_iff]

theorem mem_specific_iff (h : Explains s log) {entry : SubscriptionId × String × κ} :
    entry ∈ s.specific ↔ ∃ sub ∈ inForce log,
      ∃ suffix, sub.filter = some suffix ∧ (sub.id, suffix, sub.callback) = entry := by
  simp [h.specific, Subscription.specific?_eq_some_iff]

/-- **A removal takes the subscription with the number out of its kind**, and it finds one exactly if
one is in force. -/
theorem unsubscribe_spec (h : Explains s log) (id : SubscriptionId) :
    (s.unsubscribe id).1 = { s with
      general := s.general.filter (·.1 ≠ id)
      specific := s.specific.filter (·.1 ≠ id) } ∧
    ((s.unsubscribe id).2 = true ↔ ∃ sub ∈ inForce log, sub.id = id) := by
  unfold unsubscribe
  split_ifs with hgeneral
  · -- The number belongs to a callback for all events, and so to none for one suffix.
    simp only [List.any_eq_true, decide_eq_true_eq] at hgeneral
    obtain ⟨entry, hentry, hid⟩ := hgeneral
    obtain ⟨sub, hsub, hfilter, rfl⟩ := h.mem_general_iff.mp hentry
    have hspecific : s.specific.filter (·.1 ≠ id) = s.specific := by
      apply List.filter_eq_self.mpr
      intro entry hentry
      obtain ⟨sub', hsub', suffix, hfilter', rfl⟩ := h.mem_specific_iff.mp hentry
      rw [decide_eq_true_eq]
      intro hid'
      obtain rfl := h.eq_of_id_eq hsub hsub' (hid.trans hid'.symm)
      simp [hfilter] at hfilter'
    exact ⟨by rw [hspecific], by simpa using ⟨sub, hsub, hid⟩⟩
  · -- The number is not among the callbacks for all events, so removing it there changes nothing.
    simp only [List.any_eq_true, decide_eq_true_eq, not_exists, not_and] at hgeneral
    have hkept : s.general.filter (·.1 ≠ id) = s.general := by
      apply List.filter_eq_self.mpr
      simpa using hgeneral
    refine ⟨by rw [hkept], ?_⟩
    simp only [List.any_eq_true, decide_eq_true_eq]
    constructor
    · rintro ⟨entry, hentry, hid⟩
      obtain ⟨sub, hsub, suffix, -, rfl⟩ := h.mem_specific_iff.mp hentry
      exact ⟨sub, hsub, hid⟩
    · rintro ⟨sub, hsub, hid⟩
      cases hfilter : sub.filter with
      | none =>
        have hentry := h.mem_general_iff.mpr ⟨sub, hsub, hfilter, rfl⟩
        exact absurd hid (hgeneral _ hentry)
      | some suffix => exact ⟨_, h.mem_specific_iff.mpr ⟨sub, hsub, suffix, hfilter, rfl⟩, hid⟩

/-! ### Requests keep the log right -/

theorem subscribe (h : Explains s log) (filter : Option String) (callback : κ) :
    Explains (s.subscribe filter callback).1
      (log ++ [.subscribed (s.subscribe filter callback).2 filter callback]) := by
  have hid : (s.subscribe filter callback).2 = ⟨s.nextId⟩ := by
    cases filter <;> rfl
  have hnext : (s.subscribe filter callback).1.nextId = s.nextId + 1 := by
    cases filter <;> rfl
  -- What was removed had been issued, so the next number was never removed.
  have hfresh : (⟨s.nextId⟩ : SubscriptionId) ∉ removed log := by
    intro hmem
    exact absurd (h.removed_lt _ hmem) (by simp)
  have hinForce := inForce_subscribed hfresh filter callback
  have hissued : issued (log ++ [.subscribed ⟨s.nextId⟩ filter callback]) =
      issued log ++ [⟨⟨s.nextId⟩, filter, callback⟩] := issued_append log _
  rw [hid]
  refine ⟨?_, ?_, ?_, ?_, ?_, h.answers.concat (by simp)⟩
  · cases filter <;>
      simp [hinForce, Subscriptions.subscribe, h.general, Subscription.general?, Subscription.target]
  · cases filter <;> simp [hinForce, Subscriptions.subscribe, h.specific, Subscription.specific?]
  · rw [hissued, List.pairwise_append]
    exact ⟨h.ordered, by simp, fun sub hsub sub' hsub' => by
      simpa [List.mem_singleton.mp hsub'] using h.issued_lt sub hsub⟩
  · intro sub hsub
    rw [hissued, List.mem_append, List.mem_singleton] at hsub
    rw [hnext]
    rcases hsub with hsub | rfl
    · exact Nat.lt_succ_of_lt (h.issued_lt sub hsub)
    · simp
  · intro id hremoved
    have hold : id ∈ removed log := by simpa [removed, removed?] using hremoved
    rw [hnext]
    exact Nat.lt_succ_of_lt (h.removed_lt id hold)

theorem unsubscribe (h : Explains s log) (id : SubscriptionId) :
    Explains (s.unsubscribe id).1 (log ++ [.unsubscribed id (s.unsubscribe id).2]) := by
  obtain ⟨hstate, hfound⟩ := h.unsubscribe_spec id
  have hissued : issued (log ++ [.unsubscribed id (s.unsubscribe id).2]) = issued log := by
    simp [issued, issued?]
  -- The two tables are the subscriptions in force, by their filter; removing a number commutes
  -- with this.
  have hinForce := inForce_unsubscribed hfound
  refine ⟨?_, ?_, hissued ▸ h.ordered, ?_, ?_, ?_⟩
  · rw [hinForce, hstate, h.general]
    refine filter_filterMap_key Subscription.id Prod.fst (fun sub entry hentry => ?_) (· ≠ id) _
    rw [← (Subscription.general?_eq_some_iff.mp hentry).2, Subscription.target]
  · rw [hinForce, hstate, h.specific]
    refine filter_filterMap_key Subscription.id Prod.fst (fun sub entry hentry => ?_) (· ≠ id) _
    obtain ⟨suffix, -, rfl⟩ := Subscription.specific?_eq_some_iff.mp hentry
    rfl
  · rw [hissued, hstate]
    exact h.issued_lt
  · intro id' hid'
    rw [removed_append, List.mem_append] at hid'
    rw [hstate]
    rcases hid' with hold | hnew
    · exact h.removed_lt id' hold
    · -- What is removed now was in force, and so was issued.
      cases hremoved : (s.unsubscribe id).2 with
      | false => simp [hremoved, removed, removed?] at hnew
      | true =>
        obtain ⟨sub, hsub, rfl⟩ := hfound.mp hremoved
        have hid' : id' = sub.id := by simpa [hremoved, removed, removed?] using hnew
        rw [hid']
        exact h.issued_lt sub (mem_inForce.mp hsub).1
  · apply h.answers.concat
    rintro _ _ ⟨rfl, rfl⟩
    rw [hfound, List.mem_map]
    -- The answer is yes exactly for a number that was issued and not yet removed.
    constructor
    · rintro ⟨sub, hsub, rfl⟩
      obtain ⟨hsub, hkept⟩ := mem_inForce.mp hsub
      exact ⟨⟨sub, hsub, rfl⟩, hkept⟩
    · rintro ⟨⟨sub, hsub, rfl⟩, hkept⟩
      exact ⟨sub, mem_inForce.mpr ⟨hsub, hkept⟩, rfl⟩

theorem called (h : Explains s log) (id : SubscriptionId) (callback : κ) :
    Explains s (log ++ [.called id callback]) where
  general := by rw [inForce_called, h.general]
  specific := by rw [inForce_called, h.specific]
  ordered := by rw [issued_called]; exact h.ordered
  issued_lt := by rw [issued_called]; exact h.issued_lt
  removed_lt := by rw [removed_called]; exact h.removed_lt
  answers := h.answers.concat (by simp)

theorem serve (h : Explains s log) (request : SubscriptionRequest κ) :
    Explains (s.serve request).1 (log ++ [(s.serve request).2]) := by
  cases request with
  | subscribe filter callback => exact h.subscribe filter callback
  | unsubscribe id => exact h.unsubscribe id

theorem serveAll (h : Explains s log) (requests : List (SubscriptionRequest κ)) :
    Explains (s.serveAll requests).1 (log ++ (s.serveAll requests).2) := by
  induction requests generalizing s log with
  | nil => simpa [Subscriptions.serveAll] using h
  | cons request rest ih => simpa [Subscriptions.serveAll] using ih (h.serve request)

variable {react : SubscriptionId → κ → Event → List (SubscriptionRequest κ)} {e : Event}

/-- Whatever the callbacks ask for, the log stays right. -/
theorem callAll (h : Explains s log) (targets : List (SubscriptionId × κ)) :
    Explains (callAll react e s targets).1 (log ++ (callAll react e s targets).2) := by
  induction targets generalizing s log with
  | nil => simpa [Subscriptions.callAll] using h
  | cons target rest ih =>
    obtain ⟨id, callback⟩ := target
    simpa [Subscriptions.callAll] using ih ((h.called id callback).serveAll (react id callback e))

theorem dispatch (h : Explains s log) :
    Explains (s.dispatch react e).1 (log ++ (s.dispatch react e).2) :=
  h.callAll (s.matching e)

end Explains

/-! ### What a dispatch calls -/

/-- Requests call nobody. -/
theorem calls_serveAll (s : Subscriptions κ) (requests : List (SubscriptionRequest κ)) :
    calls (s.serveAll requests).2 = [] := by
  induction requests generalizing s with
  | nil => rfl
  | cons request rest ih =>
    have hrecord : (s.serve request).2.call? = none := by
      cases request <;> rfl
    rw [serveAll, calls, List.filterMap_cons_none hrecord]
    exact ih _

/-- Every callback of the list is called once and in its place, whatever the others ask for. -/
theorem calls_callAll (react : SubscriptionId → κ → Event → List (SubscriptionRequest κ))
    (e : Event) (s : Subscriptions κ) (targets : List (SubscriptionId × κ)) :
    calls (callAll react e s targets).2 = targets := by
  induction targets generalizing s with
  | nil => rfl
  | cons target rest ih =>
    obtain ⟨id, callback⟩ := target
    have hserved := s.calls_serveAll (react id callback e)
    have hrest := ih (s.serveAll (react id callback e)).1
    simp only [calls] at hserved hrest
    simp [callAll, calls, call?, hserved, hrest]

/-- The two kinds put together are those of all that wait for the event. -/
theorem perm_targets (e : Event) (subs : List (Subscription κ)) :
    List.Perm
      (subs.filterMap Subscription.general? ++
        ((subs.filterMap Subscription.specific?).filter fun entry => entry.2.1 = e.suffix).map
          fun (id, _, callback) => (id, callback))
      ((subs.filter (·.wants e)).map Subscription.target) := by
  induction subs with
  | nil => exact .nil
  | cons sub subs ih =>
    cases hfilter : sub.filter with
    | none =>
      simpa [Subscription.general?, Subscription.specific?, Subscription.wants, hfilter] using
        ih.cons sub.target
    | some suffix =>
      by_cases hsuffix : suffix = e.suffix
      · have h := List.perm_middle.trans (ih.cons sub.target)
        simpa [Subscription.general?, Subscription.specific?, Subscription.wants,
          Subscription.target, hfilter, hsuffix] using h
      · simpa [Subscription.general?, Subscription.specific?, Subscription.wants, hfilter, hsuffix]
          using ih

/-- **Sorting by number restores the order of subscription**: what waits for an event is what is in
force and wants it, in the order in which it was issued. -/
theorem Explains.matching_eq (h : Explains s log) (e : Event) :
    s.matching e = ((inForce log).filter (·.wants e)).map Subscription.target := by
  have hordered : (((inForce log).filter (·.wants e)).map Subscription.target).Pairwise
      (·.1.value < ·.1.value) := by
    rw [List.pairwise_map]
    exact (h.ordered.sublist List.filter_sublist).sublist List.filter_sublist
  have hnodup : ((((inForce log).filter (·.wants e)).map Subscription.target).map
      (·.1.value)).Nodup := by
    rw [List.Nodup, List.pairwise_map]
    exact hordered.imp Nat.ne_of_lt
  have hperm : (s.matching e).Perm (((inForce log).filter (·.wants e)).map Subscription.target) := by
    have hmerged := perm_targets e (inForce log)
    rw [← h.general, ← h.specific] at hmerged
    exact (List.mergeSort_perm _ _).trans hmerged
  have hsorted : (s.matching e).Pairwise (·.1.value ≤ ·.1.value) := by
    refine (List.pairwise_mergeSort (fun a b c hab hbc => ?_) (fun a b => ?_) _).imp fun hle => ?_
    · simp only [decide_eq_true_eq] at hab hbc ⊢
      omega
    · simp only [Bool.or_eq_true, decide_eq_true_eq]
      omega
    · simpa using hle
  -- Entries with one number are one entry, so that only one order is sorted.
  refine hperm.eq_of_pairwise (fun a b ha hb hab hba => ?_) hsorted (hordered.imp Nat.le_of_lt)
  exact List.inj_on_of_nodup_map hnodup (hperm.mem_iff.mp ha) hb (by omega)

/-! ### Runs -/

end Subscriptions

/-- What is done to subscriptions from outside.  A dispatch comes with what its callbacks ask for, each
under its number; a callback that remembers something may ask for something else in another dispatch. -/
inductive SubscriptionStep (κ : Type) where
  | requested (request : SubscriptionRequest κ)
  | dispatched (react : SubscriptionId → κ → Event → List (SubscriptionRequest κ)) (e : Event)

namespace Subscriptions

open SubscriptionRecord

variable {κ : Type}

/-- The subscriptions and the log after a step. -/
def perform (run : Subscriptions κ × List (SubscriptionRecord κ)) :
    SubscriptionStep κ → Subscriptions κ × List (SubscriptionRecord κ)
  | .requested request => ((run.1.serve request).1, run.2 ++ [(run.1.serve request).2])
  | .dispatched react e => ((run.1.dispatch react e).1, run.2 ++ (run.1.dispatch react e).2)

/-- The subscriptions and the log after steps that begin with none. -/
def performAll (steps : List (SubscriptionStep κ)) :
    Subscriptions κ × List (SubscriptionRecord κ) :=
  steps.foldl perform ({}, [])

theorem explains_performAll (steps : List (SubscriptionStep κ)) :
    Explains (performAll steps).1 (performAll steps).2 := by
  have hstep : ∀ run : Subscriptions κ × List (SubscriptionRecord κ), Explains run.1 run.2 →
      ∀ step ∈ steps, Explains (perform run step).1 (perform run step).2 := by
    intro run h step _
    cases step with
    | requested request => exact h.serve request
    | dispatched react e => exact h.dispatch
  exact List.foldlRecOn (motive := fun run => Explains run.1 run.2) steps perform
    (b := ({}, [])) explains_empty hstep

/-- **A dispatch calls the subscribers of its time.**  Along every run, requests of callbacks in the
middle of a dispatch included, no number is issued twice, and a removal finds a subscription exactly if
its number was issued and not yet removed.  What is in force is what was issued and not removed: a
removal takes the subscription with its number away and nothing else.  A dispatch calls, of those that
are in force when it starts, the ones that wait for all events or for the suffix of its event, each
once and in the order in which they were issued, whatever the callbacks ask for meanwhile. -/
theorem dispatch_calls_subscribers (steps : List (SubscriptionStep κ)) :
    let s := (performAll steps).1
    let log := (performAll steps).2
    ((issued log).map (·.id)).Nodup ∧
    (∀ before id found after, log = before ++ .unsubscribed id found :: after →
      (found = true ↔ id ∈ (issued before).map (·.id) ∧ id ∉ removed before)) ∧
    s.size = (inForce log).length ∧
    (∀ id, inForce (log ++ [(s.serve (.unsubscribe id)).2]) = (inForce log).filter (·.id ≠ id)) ∧
    ∀ react e, ((calls (s.dispatch react e).2).map Prod.fst).Nodup ∧
      calls (s.dispatch react e).2 = ((inForce log).filter (·.wants e)).map Subscription.target := by
  intro s log
  have h : Explains s log := explains_performAll steps
  refine ⟨h.nodup_issued, fun before id found after hlog => ?_, h.size_eq, fun id => ?_,
    fun react e => ?_⟩
  · exact h.answers before _ after hlog id found rfl
  · exact inForce_unsubscribed (h.unsubscribe_spec id).2
  · have hcalls : calls (s.dispatch react e).2 =
        ((inForce log).filter (·.wants e)).map Subscription.target := by
      rw [dispatch, calls_callAll, h.matching_eq]
    refine ⟨?_, hcalls⟩
    rw [hcalls, List.map_map]
    exact h.nodup_issued.sublist ((List.filter_sublist.trans List.filter_sublist).map _)

/-- Callbacks of both kinds are called in the order of subscription, though the first one removes the
second and subscribes another. -/
example :
    let steps : List (SubscriptionStep Nat) :=
      [.requested (.subscribe (some "state/on") 10), .requested (.subscribe none 20),
        .requested (.subscribe (some "state/bri") 30), .requested (.subscribe (some "state/on") 40)]
    let react (id : SubscriptionId) (_ : Nat) (_ : Event) : List (SubscriptionRequest Nat) :=
      if id = ⟨1⟩ then [.unsubscribe ⟨2⟩, .subscribe none 50] else []
    let e : Event := { container := .lights, suffix := "state/on", resource := ⟨1⟩ }
    calls ((performAll steps).1.dispatch react e).2 = [(⟨1⟩, 10), (⟨2⟩, 20), (⟨4⟩, 40)] := by
  cbv

end Subscriptions

end ZigbeeGateway
