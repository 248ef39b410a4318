import ZigbeeGateway.Proofs.Gateway.Writes
import ZigbeeGateway.Proofs.VendorTable

/-!
# Refused requests

A write or a report that is refused changes nothing that the gateway holds, stores or says.  All
that a refused write may leave behind is that the vendor encoder was asked: its answer is
remembered, and the call is in the outbox.

The reason is that everything that can fail comes first.  The value of a plan is fitted already, so
setting the item cannot fail any more once a vendor has sent the write or a change is queued
(`writeItem_refused_unchanged`).
-/

namespace ZigbeeGateway

/-- Whether an output is a call of a vendor encoder, or a task of it that the queue refused. -/
def Output.IsVendorCall : Output → Prop
  | .vendorCalled .. => True
  | .submitted _ accepted => accepted = false
  | _ => False

namespace Gateway

variable {g g' : Gateway} {id : ResourceId} {suffix : String} {v : Value} {r : Resource}
  {plan : WritePlan}

/-- The gateway differs at most in what is remembered of vendor encoders and in calls of them. -/
def OnlyAskedVendor (g g' : Gateway) : Prop :=
  ∃ vendors asked, g' = { g with vendors, outbox := g.outbox ++ asked } ∧
    vendors.entries = g.vendors.entries ∧ ∀ o ∈ asked, o.IsVendorCall

theorem OnlyAskedVendor.refl (g : Gateway) : g.OnlyAskedVendor g :=
  ⟨g.vendors, [], by simp, rfl, by simp⟩

/-- A vendor that does not send a write was only asked. -/
theorem onlyAskedVendor_sendVendor (device : Option Device)
    (hsent : (g.sendVendor r device plan).2 = false) :
    g.OnlyAskedVendor (g.sendVendor r device plan).1 := by
  obtain ⟨asked, heq, hasked⟩ := sendVendor_eq g r device plan
  refine ⟨_, asked, heq, VendorTable.entries_resolve _ _, ?_⟩
  intro o ho
  -- There is no encoder, or it refuses, or it makes a task that the queue refuses.
  rcases hasked with rfl | ⟨pattern, rfl | ⟨task, rfl⟩⟩
  · cases ho
  · rw [List.mem_singleton.mp ho]
    trivial
  · rcases List.mem_cons.mp ho with rfl | ho
    · trivial
    · rw [List.mem_singleton.mp ho]
      exact hsent

/-- A refused write leaves nothing but the question to the vendor. -/
theorem onlyAskedVendor_writeItem {e : Error} (h : (g.writeItem id suffix v).2 = .error e) :
    g.OnlyAskedVendor (g.writeItem id suffix v).1 := by
  generalize hwrite : g.writeItem id suffix v = result at h
  have hwritten := written_writeItem g id suffix v
  rw [hwrite] at hwritten
  cases hwritten with
  | refused => exact .refl g
  | unsent r device plan _ hsent => exact onlyAskedVendor_sendVendor device hsent
  | managed => cases h
  | direct => cases h

/-- **Refused requests change nothing.**  If a write is refused, the vendor encoder was asked at
most; if a report is refused, the gateway is what it was, and the reason was there before it.  A
write is never refused once it has passed the checks and is kept by the gateway, has its state
change queued, or was sent by a vendor encoder. -/
theorem writeItem_refused_unchanged (g : Gateway) (id : ResourceId) (suffix : String) (v : Value) :
    (∀ e, (g.writeItem id suffix v).2 = .error e →
      g.OnlyAskedVendor (g.writeItem id suffix v).1) ∧
    (∀ e, (g.report id suffix v).2 = .error e → (g.report id suffix v).1 = g ∧
      ((g.registry.live? id = none ∧ e = .resourceNotFound id.text) ∨
        ∃ r, g.registry.live? id = some r ∧
          ((r.item? suffix = none ∧ e = .parameterNotAvailable suffix) ∨
            ∃ item cause, r.item? suffix = some item ∧ item.type.coerce v = .error cause ∧
              e = .value cause))) ∧
    ∀ r plan, g.registry.live? id = some r →
      WritePlan.make r (g.registry.owner? id) g.catalog suffix v = .ok plan →
      (∀ m, plan.route = .managed m → (g.writeItem id suffix v).2 = .ok .pending) ∧
      (plan.route = .software → (g.writeItem id suffix v).2 = .ok .applied) ∧
      (plan.route = .vendor → (g.sendVendor r (g.registry.owner? id) plan).2 = true →
        (g.writeItem id suffix v).2 = .ok .applied) := by
  refine ⟨fun e h => onlyAskedVendor_writeItem h, fun e h => ?_, fun r plan hlive hmake => ?_⟩
  · cases hreport : g.applyReport id suffix v with
    | ok result =>
      rw [report, hreport] at h
      cases h
    | error e' =>
      rw [report, hreport] at h ⊢
      obtain rfl := Except.error.inj h
      exact ⟨rfl, (applyReport_eq_error_iff e').mp hreport⟩
  · -- A plan that passed its checks is refused by no route but the vendor.
    obtain ⟨item, h⟩ := exists_planned hlive hmake
    refine ⟨fun m hroute => ?_, fun hroute => ?_, fun hroute hsent => ?_⟩
    · obtain ⟨g', hwrite, -⟩ := h.managed hroute
      rw [hwrite]
    · obtain ⟨g', hwrite, -⟩ := h.software hroute
      rw [hwrite]
    · obtain ⟨g', hwrite, -⟩ := h.sent hroute hsent
      rw [hwrite]

/-- A write that its vendor refuses. -/
theorem onlyAskedVendor_refused_duration :
    let r : Resource :=
      { id := ⟨1⟩, kind := .sensors, typeName := "ZHAPresence", uniqueId := .empty,
        items := [{ suffix := "config/duration", type := .uint16 }] }
    let g : Gateway :=
      { registry := { resources := [r], nextId := 2 }
        vendors := VendorTable.register {} "*" ⟨"*", fun _ _ _ => .refuse⟩ }
    (g.writeItem ⟨1⟩ "config/duration" (.int 60)).2 = .error (.actionFailed "config/duration") ∧
      g.OnlyAskedVendor (g.writeItem ⟨1⟩ "config/duration" (.int 60)).1 := by
  intro r g
  have hrefused : (g.writeItem ⟨1⟩ "config/duration" (.int 60)).2 =
      .error (.actionFailed "config/duration") := by
    decide +kernel
  exact ⟨hrefused, (writeItem_refused_unchanged g ⟨1⟩ "config/duration" (.int 60)).1 _ hrefused⟩

end Gateway

end ZigbeeGateway
