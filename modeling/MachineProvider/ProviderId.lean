/-!
# Provider IDs

The provider ID ties a machine object to its instance: the scheme of this provider, `://`, and the
instance ID. A provider ID is split where `://` occurs first, so an instance ID may contain it
again.
-/

namespace MachineProvider.ProviderId

/-- The scheme of the provider IDs that this provider issues. -/
def scheme : String := "datacrunch"

/-- The provider ID of an instance. -/
def ofInstance (id : String) : String :=
  scheme ++ "://" ++ id

/-- The characters in front of the first `://` and those after it. -/
def split? : List Char → Option (List Char × List Char)
  | [] => none
  | ':' :: '/' :: '/' :: rest => some ([], rest)
  | c :: rest => (split? rest).map fun (front, back) => (c :: front, back)

/-- The instance ID in a provider ID; nothing for a foreign scheme or an empty instance ID. -/
def parse? (raw : String) : Option String :=
  match split? raw.toList with
  | some (front, id) =>
    if front = scheme.toList && !id.isEmpty then some (String.ofList id) else none
  | none => none

end MachineProvider.ProviderId
