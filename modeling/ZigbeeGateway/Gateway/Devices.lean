import ZigbeeGateway.Gateway.Basic

/-!
# Devices of a gateway

Adding devices, and setting them up from the description that is made for them.
-/

namespace ZigbeeGateway.Gateway

/-- Notes manufacturer and model on a node, as far as they are not empty. -/
def noteIdentity (node : Resource) (manufacturer model : String) (now : Instant) : Resource :=
  [(Suffix.manufacturerName, manufacturer), (Suffix.modelId, model)].foldl
    (fun node (suffix, value) =>
      if value.isEmpty then node else node.setIfFits suffix (.text value) now) node

/-- Makes sure that there is a device with an address, and notes its manufacturer and model. -/
def addDevice (g : Gateway) (address : ExtAddress) (manufacturer model : String) : Gateway :=
  g.mapRegistry fun registry =>
    (registry.ensureDevice address g.hostTime).modifyNode address fun node =>
      noteIdentity node manufacturer model g.now

/-- Restores what is stored of a device that does not know its manufacturer or its model. -/
def recallIfUnknown (g : Gateway) (address : ExtAddress) (d : Device) : Gateway :=
  if d.manufacturer.isEmpty || d.modelId.isEmpty then
    match g.toPremises.recallDevice address with
    | .ok (p, _) => { g with toPremises := p }
    | .error _ => g
  else g

/-- Sets a device up from the first description that is made for it, and gives the numbers of its
sub-resources. -/
def initDevice (g : Gateway) (address : ExtAddress) : Gateway × Except Error (List ResourceId) :=
  match g.registry.device? address with
  | none => (g, .error (.resourceNotFound address.text))
  | some d =>
    let g := g.recallIfUnknown address d
    match g.registry.device? address with
    | none => (g, .error (.resourceNotFound address.text))
    | some d =>
      match g.catalog.find? d.manufacturer d.modelId with
      | none => (g, .error (.schema (.noMatch d.manufacturer d.modelId)))
      | some description =>
        match g.toPremises.setUpDevice g.catalog address description g.hostTime g.now with
        | (p, .error e) => ({ g with toPremises := p }, .error e)
        | (p, .ok ids) =>
          ({ g with toPremises := p }.scheduleSave .devices g.config.saveDelayShort, .ok ids)

/-- A source of ticks. -/
structure Ticker where
  /-- Milliseconds between two ticks. -/
  period : Nat
  /-- Whether ticks that were missed are put off instead of made up for. -/
  delaysMissed : Bool
  deriving DecidableEq, Repr

/-- The longest period of ticks: thirty years of 365 days. -/
def Ticker.longest : Nat := 30 * 365 * 24 * 60 * 60 * 1000

/-- The ticks of a gateway; their period may not be zero, and a longer one than the longest is cut. -/
def ticker? (g : Gateway) : Option Ticker :=
  if g.config.tickInterval = 0 then none
  else some ⟨min g.config.tickInterval Ticker.longest, true⟩

/-- Moves both clocks on by milliseconds. -/
def advance (g : Gateway) (millis : Nat) : Gateway :=
  { g with
    clock := g.clock.advance (millis / 1000) (millis % 1000 * 1000000)
    uptime := g.uptime + millis }

end ZigbeeGateway.Gateway
