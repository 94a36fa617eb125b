/-! Blob storage: named stores of media objects. -/

namespace MediaTimeline

/-- Blob stores by id, in id order, each with the keys it holds. -/
structure BlobStores where
  stores : List (String × List String) := []
deriving Inhabited

namespace BlobStores

def put (b : BlobStores) (id key : String) : BlobStores :=
  let add (keys : List String) := if keys.contains key then keys else keys ++ [key]
  let rec place : List (String × List String) → List (String × List String)
    | [] => [(id, [key])]
    | (j, ks) :: rest =>
      if j == id then (j, add ks) :: rest
      else if decide (id < j) then (id, [key]) :: (j, ks) :: rest
      else (j, ks) :: place rest
  { stores := place b.stores }

def eraseEverywhere (b : BlobStores) (key : String) : BlobStores :=
  { stores := b.stores.map fun (j, ks) => (j, ks.filter (· != key)) }

end BlobStores

end MediaTimeline
