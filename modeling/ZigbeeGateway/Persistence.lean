import ZigbeeGateway.Output
import ZigbeeGateway.Resource.Basic

/-!
# Persistence

What keeps items and links over restarts, as it is seen by what sets devices up.  It is handed items
and links and is asked for rows, and it is free in what it does and answers.
-/

namespace ZigbeeGateway

/-- What keeps items and links.  Its state is of the type `σ`, and asking for rows may change it. -/
structure Persistence (σ : Type) where
  /-- Takes an item of a resource. -/
  storeItem (kept : σ) (r : Resource) (item : Item) : σ
  /-- Takes a link between a node and a part. -/
  storeLink (kept : σ) (node part : UniqueId) : σ
  /-- Gives the rows of a unique id. -/
  loadItems (kept : σ) (uniqueId : UniqueId) : List Row × σ

namespace Persistence

/-- Hands items of a resource over one after another, as far as the resource has them. -/
def storeItems {σ : Type} (store : Persistence σ) (kept : σ) (r : Resource)
    (suffixes : List String) : σ :=
  suffixes.foldl (fun kept suffix =>
    match r.item? suffix with
    | none => kept
    | some item => store.storeItem kept r item) kept

/-- The storage of a gateway, where all that is handed over is noted in the outbox. -/
def memory : Persistence (Storage × List Output) where
  storeItem kept r item :=
    (kept.1.storeItem r.uniqueId item, kept.2 ++ [.stored r.uniqueId item.suffix])
  storeLink kept node part := (kept.1.addLink node part, kept.2 ++ [.linked node part])
  loadItems kept uniqueId := (kept.1.rowsOf uniqueId, kept)

end Persistence

end ZigbeeGateway
