import InitiatorStore.Store.Basic

/-!
# The initiator

The name and the alias of the initiator itself.  Both are empty in a record that has just been made.
-/

namespace InitiatorStore.Store

variable (s : Store)

/-- What is kept about the initiator. -/
def initiator? : Option InitiatorRecord := s.cache.initiator.value

/-- The store with a record of the initiator, which is made if `create` is set. -/
def withInitiator (create : Bool) : Store := s.onInitiator fun i => i.ensureIf create {}

/-- The name of the initiator. -/
def initiatorName? : Option String := s.initiator?.map (·.name)

/-- The alias of the initiator. -/
def initiatorAlias? : Option String := s.initiator?.map (·.aliasName)

/-- Sets the name of the initiator. -/
def setInitiatorName (name : String) : Store :=
  s.onInitiator fun i => ((i.ensure {}).modify fun r => { r with name }).mark

/-- Sets the alias of the initiator. -/
def setInitiatorAlias (aliasName : String) : Store :=
  s.onInitiator fun i => ((i.ensure {}).modify fun r => { r with aliasName }).mark

end InitiatorStore.Store
