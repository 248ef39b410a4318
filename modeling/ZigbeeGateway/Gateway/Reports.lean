import ZigbeeGateway.Gateway.Derived

/-!
# Reports

A value that a device reports is set, the time of the last update is noted, and the writes that it
confirms take their effect.
-/

namespace ZigbeeGateway.Gateway

/-- Takes a report into a resource: sets the item, notes the time, and hands the value that the item
now holds to the pending changes.  Gives the changes that are confirmed. -/
def takeReport (r : Resource) (suffix : String) (v : Value) (now : Instant) :
    Except Error (Resource × SetOutcome × List StateChange) :=
  match r.setValue suffix v now with
  | .error e => .error e
  | .ok (r, outcome) =>
    let touched :=
      if Suffix.category suffix = "state" && suffix ≠ Suffix.lastUpdated then r.touch now else r
    match (touched.item? suffix).bind (·.value) with
    | none => .ok (touched, outcome, [])
    | some reported =>
      let (verified, confirmed) := touched.verifyReport suffix reported
      .ok (verified, outcome, confirmed)

/-- Applies what follows from the targets of confirmed changes. -/
def applyConfirmed (g : Gateway) (id : ResourceId) (confirmed : List StateChange) : Gateway :=
  (confirmed.flatMap (·.targets)).foldl
    (fun g t => g.applyEffect id (WritePolicy.of t.suffix) t.previous t.value) g

/-- Takes a value reported by a device. -/
def applyReport (g : Gateway) (id : ResourceId) (suffix : String) (v : Value) :
    Except Error (Gateway × SetOutcome) :=
  match g.registry.live? id with
  | none => .error (.resourceNotFound id.text)
  | some r =>
    match takeReport r suffix v g.now with
    | .error e => .error e
    | .ok (r, outcome, confirmed) =>
      let set := g.modifyResource id fun _ => r
      let raised := if outcome.isChanged then set.raise id suffix else set
      let effected := raised.applyConfirmed id confirmed
      .ok (if suffix = Suffix.lightLevel then effected.recomputeLight id else effected, outcome)

/-- The decoder of a signed number of two bytes, the least significant one first.  It is the value of
an item of the resource on the endpoint of the sender whose type begins with a given text. -/
def signedDecoder (typeStart suffix : String) : Decoder where
  decode registry i :=
    match i.payload with
    | [low, high] =>
      (registry.find? i.source i.endpoint typeStart).map fun r =>
        ⟨r.id, suffix, .int (Int64.ofInt (Int.bmod (low.toNat + 256 * high.toNat) 65536))⟩
    | _ => none

/-- Makes a decoder the one of a cluster. -/
def registerDecoder (g : Gateway) (cluster : UInt16) (decoder : Decoder) : Gateway :=
  { g with decoders := (cluster, decoder) :: g.decoders.filter (·.1 ≠ cluster) }

/-- Hands a frame to the decoder of its cluster and takes the report it finds.  Says whether there
was a report and it was taken. -/
def handleIndication (g : Gateway) (i : Indication) : Gateway × Bool :=
  match g.decoders.lookup i.cluster with
  | none => (g, false)
  | some decoder =>
    let g := g.emit [.decoded i]
    match decoder.decode g.registry i with
    | none => (g, false)
    | some report =>
      match g.applyReport report.resource report.suffix report.value with
      | .ok (g, _) => (g, true)
      | .error _ => (g, false)

end ZigbeeGateway.Gateway
