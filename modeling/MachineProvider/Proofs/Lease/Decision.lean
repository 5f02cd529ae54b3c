import MachineProvider.Lease.Basic

/-!
# What is decided about a lease

What an elector does about a lease goes by who holds the lease, and whether it has expired.
`Lease.decides` lists the cases that there are. What one decision or another says about the lease is
read off that list.
-/

namespace MachineProvider

namespace Lease

/-- Who holds a lease with a record, if there is one. -/
def holder? (before : Option LeaseSpec) : Option String :=
  before.bind LeaseSpec.holder?

/-- How often a lease with a record has changed hands. -/
def transitions (before : Option LeaseSpec) : Int32 :=
  (before.map LeaseSpec.transitions).getD 0

/-- Whether somebody else holds a lease with a record. -/
def IsHeldByOther (identity : String) (before : Option LeaseSpec) : Prop :=
  ∃ holder, holder? before = some holder ∧ holder ≠ identity

/-- What is decided about a lease goes by who holds it, and whether it has expired. -/
inductive Decides (identity : String) (now : Timestamp) (before : Option LeaseSpec) :
    Option LeaseDecision → Prop
  | vacant (vacant : holder? before = none) :
    Decides identity now before (some (.takeOver (transitions before)))
  | own (own : holder? before = some identity) : Decides identity now before (some .renew)
  | expired {s : LeaseSpec} (stands : before = some s) (other : IsHeldByOther identity before)
    (expired : isExpired? s now = some true) :
    Decides identity now before (some (.takeOver (transitions before)))
  | alive {s : LeaseSpec} (stands : before = some s) (other : IsHeldByOther identity before)
    (alive : isExpired? s now = some false) : Decides identity now before (some .wait)
  | endless {s : LeaseSpec} (stands : before = some s) (other : IsHeldByOther identity before)
    (endless : isExpired? s now = none) : Decides identity now before none

theorem decides (before : Option LeaseSpec) (identity : String) (now : Timestamp) :
    Decides identity now before (decide before identity now) := by
  cases before with
  | none => exact .vacant rfl
  | some s =>
      cases held : s.holder? with
      | none =>
          have decided : decide (some s) identity now = some (.takeOver s.transitions) := by
            simp [decide, held]
          rw [decided]
          exact .vacant held
      | some holder =>
          by_cases own : holder = identity
          · rw [decide_of_holder now (own ▸ held)]
            exact .own (own ▸ held)
          · have other : IsHeldByOther identity (some s) := ⟨holder, held, own⟩
            cases expired : isExpired? s now with
            | none =>
                have decided : decide (some s) identity now = none := by
                  simp [decide, held, own, expired]
                rw [decided]
                exact .endless rfl other expired
            | some answer =>
                have decided : decide (some s) identity now =
                    some (if answer then .takeOver s.transitions else .wait) := by
                  simp [decide, held, own, expired]
                rw [decided]
                cases answer with
                | true => exact .expired rfl other expired
                | false => exact .alive rfl other expired

section Decided

variable {before : Option LeaseSpec} {s : LeaseSpec} {identity holder : String} {now : Timestamp}
  {count : Int32}

/-- Only its holder renews a lease. -/
theorem holder?_of_renew (decided : decide before identity now = some .renew) :
    holder? before = some identity := by
  have decides := decides before identity now
  rw [decided] at decides
  cases decides with
  | own own => exact own

/-- An elector waits only for another holder. -/
theorem isHeldByOther_of_wait (decided : decide before identity now = some .wait) :
    IsHeldByOther identity before := by
  have decides := decides before identity now
  rw [decided] at decides
  cases decides with
  | alive _ other _ => exact other

/-- A lease is not taken by its holder, and the changes of hands are those of its record. -/
theorem transitions_of_takeOver
    (decided : decide before identity now = some (.takeOver count)) :
    count = transitions before ∧ holder? before ≠ some identity := by
  have decides := decides before identity now
  rw [decided] at decides
  cases decides with
  | vacant vacant => exact ⟨rfl, by simp [vacant]⟩
  | expired stands other expired =>
      obtain ⟨holder, held, other⟩ := other
      refine ⟨rfl, ?_⟩
      rw [held]
      intro same
      exact other (Option.some.inj same)

theorem holder?_of_ne (held : s.holderIdentity = some holder) (named : holder ≠ "") :
    s.holder? = some holder := by
  simp [LeaseSpec.holder?, held, named]

/-- Only a replica that the lease names renews it. -/
theorem holder_of_renew (renews : decide before identity now = some .renew) :
    ∃ spec, before = some spec ∧ spec.holderIdentity = some identity := by
  obtain ⟨spec, stood, held⟩ := Option.bind_eq_some_iff.mp (holder?_of_renew renews)
  obtain ⟨named, -⟩ := Option.filter_eq_some_iff.mp held
  exact ⟨spec, stood, named⟩

/-- A lease that another replica holds is taken over only when it has expired. -/
theorem expired_of_takeOver (held : s.holderIdentity = some holder) (named : holder ≠ "")
    (takes : decide (some s) identity now = some (.takeOver count)) :
    isExpired? s now = some true := by
  have decides := decides (some s) identity now
  rw [takes] at decides
  cases decides with
  | vacant vacant =>
      have holds : holder? (some s) = some holder := holder?_of_ne held named
      simp [holds] at vacant
  | expired stands _ expired =>
      cases stands
      exact expired

/-- A lease that another replica holds is taken over when it has expired. -/
theorem takeOver_of_expired (held : s.holderIdentity = some holder) (named : holder ≠ "")
    (other : holder ≠ identity) (expired : isExpired? s now = some true) :
    decide (some s) identity now = some (.takeOver s.transitions) := by
  simp [decide, holder?_of_ne held named, other, expired]

end Decided

end Lease

end MachineProvider
