import ModuleContext.Foundation.Result
import ModuleContext.Misc.StringMap

/-!
# The service registry

`src/framework/ServiceRegistry.cpp`: service key, then provider name, then a raw pointer to
the module that provides the service.
-/

namespace ModuleContext.Framework
open Foundation Misc

/-- A non-null `IModule*`: the address of the object, and what `dynamic_cast` to
`IMessageBusService` finds, which is fixed by the object's dynamic type. -/
structure ModuleRef where
  address : Nat
  isMessageBusService : Bool
  deriving DecidableEq, Repr

/-- `ServiceTypeTraits<IMessageBusService>::Key()`. -/
def messageBusServiceKey : String := "module_context.messaging.IMessageBusService"

/-- `services_by_key_`; a null pointer is `none`. -/
structure ServiceRegistry where
  servicesByKey : StringMap (StringMap (Option ModuleRef))

namespace ServiceRegistry

def empty : ServiceRegistry := ⟨∅⟩

/-- The providers of one key, as `services_by_key_[service_key]` finds or creates them. -/
def providers (serviceKey : String) (r : ServiceRegistry) : StringMap (Option ModuleRef) :=
  (r.servicesByKey.lookup serviceKey).getD ∅

def register (serviceKey name : String) (provider : Option ModuleRef) (r : ServiceRegistry) :
    ServiceRegistry :=
  if serviceKey.isEmpty || name.isEmpty || provider.isNone then r
  else ⟨r.servicesByKey.insert serviceKey ((r.providers serviceKey).insert name provider)⟩

def registerKnownServices (name : String) (provider : Option ModuleRef) (r : ServiceRegistry) :
    ServiceRegistry :=
  match provider with
  | none => r
  | some ref =>
      if ref.isMessageBusService then r.register messageBusServiceKey name provider else r

def lookup (serviceKey name : String) (r : ServiceRegistry) : Result ModuleRef :=
  let missing : Error := ⟨.notFound, "ServiceRegistry::Lookup failed: service key '" ++
    serviceKey ++ "' has no provider named '" ++ name ++ "'"⟩
  if serviceKey.isEmpty || name.isEmpty then
    .error ⟨.invalidArgument, "ServiceRegistry::Lookup failed: service key or name is empty"⟩
  else
    match r.servicesByKey.lookup serviceKey with
    | none => .error missing
    | some byName =>
        match byName.lookup name with
        | none => .error missing
        | some none => .error ⟨.invalidState, "ServiceRegistry::Lookup failed: service '" ++
            name ++ "' is not available"⟩
        | some (some provider) => .ok provider

def lookupUnique (serviceKey : String) (r : ServiceRegistry) : Result ModuleRef :=
  let missing : Error :=
    ⟨.notFound, "ServiceRegistry::LookupUnique failed: service was not found"⟩
  if serviceKey.isEmpty then
    .error ⟨.invalidArgument, "ServiceRegistry::LookupUnique failed: service key is empty"⟩
  else
    match r.servicesByKey.lookup serviceKey with
    | none => .error missing
    | some byName =>
        match byName.entries with
        | [] => .error missing
        | [⟨_, some provider⟩] => .ok provider
        | [⟨_, none⟩] => .error
            ⟨.invalidState, "ServiceRegistry::LookupUnique failed: service is not available"⟩
        | _ => .error ⟨.invalidState,
            "ServiceRegistry::LookupUnique failed: multiple services are registered"⟩

/-- `ServiceRegistry::Clear`. -/
def clear (_ : ServiceRegistry) : ServiceRegistry := ⟨∅⟩

/-! What the registry holds is said by `providers` alone. -/

@[simp] theorem providers_clear (serviceKey : String) (r : ServiceRegistry) :
    r.clear.providers serviceKey = ∅ := rfl

/-- Registering a module adds it under its name if it implements the service, and touches
no other name. -/
theorem lookup_providers_registerKnownServices {name : String} (nonempty : name.isEmpty = false)
    (ref : ModuleRef) (r : ServiceRegistry) (other : String) :
    ((r.registerKnownServices name (some ref)).providers messageBusServiceKey).lookup other =
      if other = name ∧ ref.isMessageBusService = true then some (some ref)
      else (r.providers messageBusServiceKey).lookup other := by
  have keyNonempty : messageBusServiceKey.isEmpty = false := by decide
  cases implements : ref.isMessageBusService with
  | false => simp [registerKnownServices, implements]
  | true =>
    simp only [registerKnownServices, implements, if_true, register, keyNonempty, nonempty,
      Option.isNone_some, Bool.or_self, Bool.false_eq_true, if_false, providers,
      AList.lookup_insert, Option.getD_some, and_true]
    by_cases same : other = name
    · subst same
      simp only [AList.lookup_insert, if_true]
    · rw [AList.lookup_insert_ne same, if_neg same]

/-- Services of other keys are never touched by loading a module. -/
theorem providers_registerKnownServices_ne {serviceKey : String}
    (different : serviceKey ≠ messageBusServiceKey) (name : String)
    (provider : Option ModuleRef) (r : ServiceRegistry) :
    (r.registerKnownServices name provider).providers serviceKey = r.providers serviceKey := by
  cases provider with
  | none => rfl
  | some ref =>
    simp only [registerKnownServices]
    split
    · simp only [register]
      split
      · rfl
      · simp only [providers, AList.lookup_insert_ne different]
    · rfl

/-- `Lookup` on a non-empty key and name reads the provider map. -/
theorem lookup_eq_ok {serviceKey name : String} (keyNonempty : serviceKey.isEmpty = false)
    (nonempty : name.isEmpty = false) (r : ServiceRegistry) (ref : ModuleRef) :
    r.lookup serviceKey name = .ok ref ↔
      (r.providers serviceKey).lookup name = some (some ref) := by
  simp only [lookup, keyNonempty, nonempty, Bool.or_self, Bool.false_eq_true, if_false, providers]
  cases r.servicesByKey.lookup serviceKey with
  | none => simp
  | some byName =>
    simp only [Option.getD_some]
    cases byName.lookup name with
    | none => simp
    | some provider => cases provider <;> simp

/-- `LookupUnique` on a non-empty key reads the provider map: how many names it has decides
the outcome, as long as no null pointer is registered. -/
theorem lookupUnique_eq {serviceKey : String} (keyNonempty : serviceKey.isEmpty = false)
    (r : ServiceRegistry) :
    r.lookupUnique serviceKey =
      match (r.providers serviceKey).entries with
      | [] => .error ⟨.notFound, "ServiceRegistry::LookupUnique failed: service was not found"⟩
      | [⟨_, some provider⟩] => .ok provider
      | [⟨_, none⟩] => .error
          ⟨.invalidState, "ServiceRegistry::LookupUnique failed: service is not available"⟩
      | _ => .error ⟨.invalidState,
          "ServiceRegistry::LookupUnique failed: multiple services are registered"⟩ := by
  simp only [lookupUnique, keyNonempty, Bool.false_eq_true, if_false, providers]
  cases r.servicesByKey.lookup serviceKey <;> rfl

/-- Whatever `Lookup` returns is registered under the key and the name. -/
theorem lookup_ok {serviceKey name : String} {r : ServiceRegistry} {ref : ModuleRef}
    (found : r.lookup serviceKey name = .ok ref) :
    (r.providers serviceKey).lookup name = some (some ref) := by
  cases given : serviceKey.isEmpty || name.isEmpty with
  | true => simp [lookup, given] at found
  | false =>
    rw [Bool.or_eq_false_iff] at given
    exact (lookup_eq_ok given.1 given.2 r ref).mp found

/-- Whatever `LookupUnique` returns is registered under the key and some name. -/
theorem lookupUnique_ok {serviceKey : String} {r : ServiceRegistry} {ref : ModuleRef}
    (found : r.lookupUnique serviceKey = .ok ref) :
    ∃ name, (r.providers serviceKey).lookup name = some (some ref) := by
  cases given : serviceKey.isEmpty with
  | true => simp [lookupUnique, given] at found
  | false =>
    rw [lookupUnique_eq given] at found
    split at found
    · cases found
    · rename_i name provider single
      cases found
      exact ⟨name, StringMap.lookup_iff_entry.mpr (by simp [single])⟩
    · cases found
    · cases found

end ServiceRegistry

end ModuleContext.Framework
