import ZigbeeGateway.Text.Wildcard

/-!
# Vendor tables

Encoders for models that no description covers, found by a pattern of the model id.  The encoder that
was registered first wins.  Answers are remembered until the next registration.
-/

namespace ZigbeeGateway

/-- Encoders by patterns of model ids. -/
structure VendorTable (ε : Type) where
  /-- The patterns and their encoders, the oldest first. -/
  entries : List (Text.Wildcard × ε) := []
  /-- Models with the encoder that was found for them, or that none was. -/
  cache : List (String × Option ε) := []

namespace VendorTable

variable {ε : Type}

/-- Adds an encoder; what is remembered no longer holds. -/
def register (t : VendorTable ε) (pattern : String) (encoder : ε) : VendorTable ε :=
  { entries := t.entries ++ [(⟨pattern⟩, encoder)], cache := [] }

/-- The first encoder whose pattern covers a model. -/
def find? (t : VendorTable ε) (model : String) : Option ε :=
  (t.entries.find? fun (pattern, _) => pattern.accepts model).map Prod.snd

/-- The encoder for a model, which is remembered. -/
def resolve (t : VendorTable ε) (model : String) : VendorTable ε × Option ε :=
  match t.cache.lookup model with
  | some known => (t, known)
  | none =>
    let found := t.find? model
    ({ t with cache := t.cache ++ [(model, found)] }, found)

def size (t : VendorTable ε) : Nat :=
  t.entries.length

/-- The table as it is shown for diagnostics. -/
def diagnosticText (t : VendorTable ε) : String :=
  "VendorEncoderRegistry \x7b patterns: " ++ String.ofList (Nat.toDigits 10 t.size) ++
    ", cached: " ++ String.ofList (Nat.toDigits 10 t.cache.length) ++ " \x7d"

end VendorTable

end ZigbeeGateway
