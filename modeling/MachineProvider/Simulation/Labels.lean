import MachineProvider.Json.Value

/-!
# Labelling new times

The times that a simulation takes from the clock mean nothing to a reader. In a new version of a
value, each time of the last transition of a condition that the old version does not contain is
replaced by a label. The times of a lease are labelled by the first step that showed them.
-/

namespace MachineProvider.Simulation

/-- The name of the members that hold times. -/
def transitionTime : String := "lastTransitionTime"

mutual
/-- All times in a value. -/
def times : Json → List String
  | .arr items => timesOfItems items
  | .obj members => timesOfMembers members
  | _ => []

/-- All times in the items of an array. -/
def timesOfItems : List Json → List String
  | [] => []
  | item :: rest => times item ++ timesOfItems rest

/-- All times in the members of an object. -/
def timesOfMembers : List (String × Json) → List String
  | [] => []
  | (name, .str text) :: rest =>
    if name = transitionTime then text :: timesOfMembers rest else timesOfMembers rest
  | (_, value) :: rest => times value ++ timesOfMembers rest
end

mutual
/-- Replaces the times that are not among the known ones by a label. -/
def labelTimes (known : List String) (label : String) : Json → Json
  | .arr items => .arr (labelItems known label items)
  | .obj members => .obj (labelMembers known label members)
  | other => other

/-- Replaces times in the items of an array. -/
def labelItems (known : List String) (label : String) : List Json → List Json
  | [] => []
  | item :: rest => labelTimes known label item :: labelItems known label rest

/-- Replaces times in the members of an object. -/
def labelMembers (known : List String) (label : String) :
    List (String × Json) → List (String × Json)
  | [] => []
  | (name, .str text) :: rest =>
    let shown := if name = transitionTime && !known.contains text then label else text
    (name, .str shown) :: labelMembers known label rest
  | (name, value) :: rest => (name, labelTimes known label value) :: labelMembers known label rest
end

/-- The label for a step. -/
def stepLabel (step : Nat) : String :=
  "@" ++ toString step

/-- A new version of a value with its new times labelled by the number of a step. -/
def labelNewTimes (before after : Json) (step : Nat) : Json :=
  labelTimes (times before) (stepLabel step) after

mutual
/-- All texts in a value. -/
def texts : Json → List String
  | .str text => [text]
  | .arr items => textsOfItems items
  | .obj members => textsOfMembers members
  | _ => []

/-- All texts in the items of an array. -/
def textsOfItems : List Json → List String
  | [] => []
  | item :: rest => texts item ++ textsOfItems rest

/-- All texts in the members of an object. -/
def textsOfMembers : List (String × Json) → List String
  | [] => []
  | (_, value) :: rest => texts value ++ textsOfMembers rest
end

/-- The times that were shown, with the number of the step that first did so. -/
abbrev Seen := List (String × Nat)

/-- Labels one time of a lease at a step, unless it is known. -/
def labelLeaseTime (known : List String) (step : Nat) (name : String) (lease : Json) (seen : Seen) :
    Json × Seen :=
  match lease.path? ["spec", name] with
  | some (.str text) =>
    if known.contains text then (lease, seen)
    else
      let first := (seen.lookup text).getD step
      let spec := (lease.find? "spec").getD (.obj [])
      (lease.set "spec" (spec.set name (.str (stepLabel first))), (text, first) :: seen)
  | _ => (lease, seen)

/-- Labels the times of a lease at a step, unless they are known. -/
def labelLease (known : List String) (step : Nat) (lease : Json) (seen : Seen) : Json × Seen :=
  let (lease, seen) := labelLeaseTime known step "acquireTime" lease seen
  labelLeaseTime known step "renewTime" lease seen

end MachineProvider.Simulation
