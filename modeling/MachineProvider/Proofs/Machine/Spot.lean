import MachineProvider.Machine.Launch
import MachineProvider.Proofs.Cloud.Creation
import MachineProvider.Proofs.Json

/-!
# Spot instances

A machine may want a spot instance, and may say the most that it pays for it. The request for its
instance has room for the price only, and the price makes it a request for a spot instance. What is
sent to the cloud is therefore what the machine wants, except that a machine that wants a spot
instance and names no price gets an instance on demand (`InfraMachine.asksForSpot_of_sent`).
-/

namespace MachineProvider.InfraMachine

open Client

/-- The most that a machine pays for a spot instance, if it wants one and says so. -/
def maxPrice? (m : InfraMachine) : Option String :=
  m.spec.spot.bind (·.maxPrice)

/-- What the request for the instance of a machine says about spot instances. -/
structure AsksForSpot (m : InfraMachine) (body : Json) : Prop where
  price : body.find? "spot_max_price" = m.maxPrice?.map .str
  flag : body.find? "is_spot" = some (.bool m.maxPrice?.isSome)
  /-- It asks for what the machine wants, unless the machine wants a spot instance for any price. -/
  faithful : body.find? "is_spot" = some (.bool m.spec.spot.isSome) ↔
    m.spec.spot ≠ some { maxPrice := none }

variable (m : InfraMachine) (scope : MachineScope) (image userData : String)

theorem find?_createInstance (r : InstanceRequest) :
    (Message.createInstance r).find? "spot_max_price" = r.spotMaxPrice.map .str ∧
      (Message.createInstance r).find? "is_spot" = some (.bool r.spotMaxPrice.isSome) :=
  ⟨Json.find?_ofMembers (by simp) _, Json.find?_ofMembers (by simp) _⟩

/-- The price is all that the request keeps of what the machine wants. -/
theorem asksForSpot_ofMachine :
    m.AsksForSpot (Message.createInstance (.ofMachine m scope image userData)) := by
  obtain ⟨price, flag⟩ := find?_createInstance (.ofMachine m scope image userData)
  have flag : (Message.createInstance (.ofMachine m scope image userData)).find? "is_spot" =
      some (.bool m.maxPrice?.isSome) := flag
  refine ⟨price, flag, ?_⟩
  rw [flag]
  rcases wanted : m.spec.spot with - | ⟨- | price⟩ <;> simp [maxPrice?, wanted]

/-- Whatever a client is answered while it creates the instance of a machine, what it posts asks for
a spot instance with the price of the machine, when the machine names one, and for an instance on
demand otherwise. -/
theorem asksForSpot_of_sent (c : Client) {σ : Type}
    (answer : (q : Question) → σ → Answer q × σ) (s : σ) {request : HttpRequest}
    (sent : .sends request ∈
      ((c.createInstance (.ofMachine m scope image userData)).ran answer s).2)
    (posted : (Deed.sends request).isPost = true) :
    ∃ body, request.body = some body ∧ m.AsksForSpot body :=
  ⟨_, c.body_of_isPost _ answer s sent posted, m.asksForSpot_ofMachine scope image userData⟩

/-- A machine wants a spot instance and names no price, and what is posted asks for an instance on
demand. -/
theorem asksForSpot_of_sent_of_sample :
    let m : InfraMachine := { spec := { instanceType := "1V100.6V", spot := some {} } }
    let run := (sample.createInstance (.ofMachine m default "ubuntu" "")).ran Script.answer
      { answers := [.ok hourGrant] }
    ∃ request body, .sends request ∈ run.2 ∧ (Deed.sends request).isPost = true ∧
      request.body = some body ∧ m.AsksForSpot body ∧
      m.spec.spot.isSome = true ∧ body.find? "is_spot" = some (.bool false) := by
  intro m run
  have once : 0 < run.2.countP (·.isPost) := by decide +kernel
  obtain ⟨deed, sent, posted⟩ := List.countP_pos_iff.mp once
  cases deed with
  | sends request =>
      obtain ⟨body, same, asks⟩ := asksForSpot_of_sent m default "ubuntu" "" sample Script.answer
        { answers := [.ok hourGrant] } sent posted
      exact ⟨request, body, sent, posted, same, asks, rfl, asks.flag⟩
  | _ => cases posted

end MachineProvider.InfraMachine
