import LevelScript.Proofs.Construction.Agreement
import LevelScript.Proofs.Construction.Overloads
import Mathlib.Data.List.Dedup

namespace LevelScript

/-!
# Registries by their history

A registry is what some calls have made of the empty one. Of all calls with one name the last
one counts, whatever was registered under the name before. So everything that is found or
constructed can be said in terms of the calls.
-/

variable {α : Type}

/-- A call that registers a name, be it that of a class or of something else. -/
inductive RegistryCall (α : Type) where
  | register (entityClass : EntityClass α)
  | registerOther (name : Name)

namespace RegistryCall

/-- The name that is registered. -/
def name :
    RegistryCall α →
    Name
  | .register entityClass => entityClass.name
  | .registerOther name => name

/-- The registry after one more call. -/
def apply
    (registry : Registry α) :
    RegistryCall α →
    Registry α
  | .register entityClass => registry.register entityClass
  | .registerOther name => registry.registerOther name

/-- What the name of a call stands for right after it. -/
def meaning :
    RegistryCall α →
    Lookup α
  | .register entityClass => .found entityClass
  | .registerOther _ => .notConstructible

end RegistryCall

/-- The registry after some calls on the empty one. -/
def Registry.ofCalls
    (calls : List (RegistryCall α)) :
    Registry α :=
  calls.foldl RegistryCall.apply .empty

/-- The same call, of which a class has altered constructors. -/
def RegistryCall.altered
    (other : Constructor α → List (Literal α) → Except String (Entity α)) :
    RegistryCall α →
    RegistryCall α
  | .register entityClass => .register (entityClass.altered other)
  | .registerOther name => .registerOther name

/-! ## What the last call decides -/

namespace Registry

theorem ofCalls_concat
    (calls : List (RegistryCall α))
    (last : RegistryCall α) :
    ofCalls (calls ++ [last]) = last.apply (ofCalls calls) := by
  simp [ofCalls]

/-- One more call decides about its own name and leaves all others alone. -/
theorem lookup_apply
    (registry : Registry α)
    (call : RegistryCall α)
    (name : Name) :
    (call.apply registry).lookup name =
      if call.name = name then call.meaning else registry.lookup name := by
  cases call with
  | register entityClass =>
      rw [RegistryCall.apply, lookup_register]
      simp only [RegistryCall.name, RegistryCall.meaning, eq_comm]
  | registerOther other =>
      rw [RegistryCall.apply, lookup_registerOther]
      simp only [RegistryCall.name, RegistryCall.meaning, eq_comm]

/-- A name stands for what the last call with it has registered. -/
theorem lookup_ofCalls
    (calls : List (RegistryCall α))
    (name : Name) :
    (ofCalls calls).lookup name =
      ((lastNamed? RegistryCall.name name calls).map RegistryCall.meaning).getD .notFound := by
  induction calls using List.reverseRecOn with
  | nil =>
      rfl
  | append_singleton calls last inductionHypothesis =>
      rw [ofCalls_concat, lookup_apply, lastNamed?_concat, inductionHypothesis]
      split
      · rfl
      · rfl

section Last

variable {calls : List (RegistryCall α)} {name : Name}

/-- A name is found as a class exactly if the last call with it registered this class. -/
theorem lookup_ofCalls_eq_found_iff
    {entityClass : EntityClass α} :
    (ofCalls calls).lookup name = .found entityClass ↔
      lastNamed? RegistryCall.name name calls = some (.register entityClass) := by
  rw [lookup_ofCalls]
  cases lastNamed? RegistryCall.name name calls with
  | none =>
      simp
  | some call =>
      cases call <;> simp [RegistryCall.meaning]

/-- A name is no class exactly if the last call with it registered something else. -/
theorem lookup_ofCalls_eq_notConstructible_iff :
    (ofCalls calls).lookup name = .notConstructible ↔
      lastNamed? RegistryCall.name name calls = some (.registerOther name) := by
  rw [lookup_ofCalls]
  cases isLast : lastNamed? RegistryCall.name name calls with
  | none =>
      simp
  | some call =>
      have sameName := (mem_of_lastNamed? isLast).2
      cases call with
      | register entityClass =>
          simp [RegistryCall.meaning]
      | registerOther other =>
          obtain rfl : other = name := sameName
          simp [RegistryCall.meaning]

/-- A name is unknown exactly if no call registered it. -/
theorem lookup_ofCalls_eq_notFound_iff :
    (ofCalls calls).lookup name = .notFound ↔ ∀ call ∈ calls, call.name ≠ name := by
  rw [← lastNamed?_eq_none_iff, lookup_ofCalls]
  cases lastNamed? RegistryCall.name name calls with
  | none =>
      simp
  | some call =>
      cases call <;> simp [RegistryCall.meaning]

end Last

/-- A table holds a name exactly if it stands for something. -/
theorem mem_names_registrations_iff
    {registry : Registry α}
    {name : Name} :
    name ∈ registry.registrations.names ↔ registry.lookup name ≠ .notFound := by
  rw [Table.mem_names_iff]
  unfold Table.contains lookup
  cases registry.registrations.get? name with
  | none =>
      simp
  | some registration =>
      cases registration <;> simp

/-- There are as many names as were registered, each of them counted once. -/
theorem size_ofCalls
    (calls : List (RegistryCall α)) :
    (ofCalls calls).size = (calls.map RegistryCall.name).dedup.length := by
  have sameNames : ∀ name,
      name ∈ (ofCalls calls).registrations.names ↔
        name ∈ (calls.map RegistryCall.name).dedup := by
    intro name
    rw [mem_names_registrations_iff, Ne, lookup_ofCalls_eq_notFound_iff, List.mem_dedup]
    simp
  have isPermutation :=
    (List.perm_ext_iff_of_nodup (ofCalls calls).registrations.distinct
      (List.nodup_dedup _)).2 sameNames
  rw [← isPermutation.length_eq, List.length_map]
  rfl

/-- A name that is registered again, even for something else, is not counted again. -/
example :
    (ofCalls [.registerOther ⟨"a.B"⟩, .register ⟨⟨"a.B"⟩, []⟩] : Registry Nat).size = 1 := by
  decide

/-! ## What is found and constructed -/

/-- What is constructed does not change if the constructors do something else with arguments that
do not fit. -/
theorem construct_ofCalls_altered
    (other : Constructor α → List (Literal α) → Except String (Entity α))
    (calls : List (RegistryCall α))
    (className : Name)
    (arguments : List (Literal α))
    (span : Span) :
    (ofCalls (calls.map (.altered other))).construct className arguments span =
      (ofCalls calls).construct className arguments span := by
  have sameNames : RegistryCall.name ∘ RegistryCall.altered other = RegistryCall.name := by
    funext call
    cases call <;> rfl
  have meaning := lookup_ofCalls calls className
  have alteredMeaning := lookup_ofCalls (calls.map (RegistryCall.altered other)) className
  rw [lastNamed?_map, sameNames] at alteredMeaning
  cases isLast : lastNamed? RegistryCall.name className calls with
  | none =>
      rw [isLast] at meaning alteredMeaning
      exact construct_congr (alteredMeaning.trans meaning.symm) span
  | some call =>
      rw [isLast] at meaning alteredMeaning
      cases call with
      | registerOther name =>
          exact construct_congr (alteredMeaning.trans meaning.symm) span
      | register entityClass =>
          exact construct_altered other meaning alteredMeaning span

/-- The last one of some calls with a class name registered a class that chooses a constructor. -/
def CallsSelect
    (calls : List (RegistryCall α))
    (className : Name)
    (arguments : List (Literal α))
    (constructor : Constructor α) :
    Prop :=
  ∃ entityClass index,
    lastNamed? RegistryCall.name className calls = some (.register entityClass) ∧
      entityClass.ChoosesAt arguments index constructor

theorem selects_ofCalls_iff
    {calls : List (RegistryCall α)}
    {className : Name}
    {arguments : List (Literal α)}
    {constructor : Constructor α} :
    (ofCalls calls).Selects className arguments constructor ↔
      CallsSelect calls className arguments constructor := by
  simp only [Selects, CallsSelect, lookup_ofCalls_eq_found_iff]

/-- What a registry finds under a class name and constructs from some arguments is decided by the
calls that it was made by. -/
structure FollowsCalls
    (registry : Registry α)
    (calls : List (RegistryCall α))
    (className : Name)
    (arguments : List (Literal α))
    (span : Span) :
    Prop where
  lookup :
    registry.lookup className =
      ((lastNamed? RegistryCall.name className calls).map RegistryCall.meaning).getD .notFound
  unknown : registry.lookup className = .notFound ↔ ∀ call ∈ calls, call.name ≠ className
  size : registry.size = (calls.map RegistryCall.name).dedup.length
  /-- Only the selected constructor is run, on just these arguments, and its result is told. -/
  runs : ∀ constructor,
    CallsSelect calls className arguments constructor →
      registry.construct className arguments span =
        ⟨[.runningConstructor className constructor.params],
          (constructor.build arguments).mapError fun reason =>
            ⟨.constructorFailed className reason, span⟩⟩
  /-- If none is selected, none is run. -/
  idle :
    (∀ constructor, ¬CallsSelect calls className arguments constructor) →
      (registry.construct className arguments span).events = []
  /-- What constructors would do with arguments that do not fit makes no difference. -/
  unaltered : ∀ other,
    (ofCalls (calls.map (.altered other))).construct className arguments span =
      registry.construct className arguments span
  /-- The entity is the one that was built, with the connectors that it came with. -/
  builds : ∀ entity,
    (registry.construct className arguments span).outcome = .ok entity ↔
      ∃ constructor,
        CallsSelect calls className arguments constructor ∧
          constructor.build arguments = .ok entity
  invalidClass :
    registry.FailsWith className arguments span .invalidClass ↔
      ∀ call ∈ calls, call.name ≠ className
  incompatibleClass :
    registry.FailsWith className arguments span .incompatibleClass ↔
      lastNamed? RegistryCall.name className calls = some (.registerOther className)
  incompatibleInitializer :
    registry.FailsWith className arguments span .incompatibleInitializer ↔
      ∃ entityClass,
        lastNamed? RegistryCall.name className calls = some (.register entityClass) ∧
          ∀ constructor ∈ entityClass.constructors, ¬constructor.Fits arguments
  initializationError :
    registry.FailsWith className arguments span .initializationError ↔
      ∃ constructor reason,
        CallsSelect calls className arguments constructor ∧
          constructor.build arguments = .error reason
  /-- What the selected constructor said is the cause of the error and ends its message. -/
  reason : ∀ error,
    (registry.construct className arguments span).outcome = .error error →
      error.kind = .initializationError →
      ∃ constructor reason,
        CallsSelect calls className arguments constructor ∧
          constructor.build arguments = .error reason ∧
          error.fault.reason? = some reason ∧
          error.message = "constructor of " ++ LoadFault.quote className ++ " failed: " ++ reason
  kind : ∀ error,
    (registry.construct className arguments span).outcome = .error error →
      error.kind ∈ [LoadErrorKind.invalidClass, .incompatibleClass, .incompatibleInitializer,
        .initializationError]

/--
Whatever was registered in whatever order, a class name stands for what the last call with it has
registered, and the names are counted once. An entity is what the first constructor of the class
builds whose parameters are the kinds of the arguments, position by position. No other one is run,
and each failure says which of these steps has failed.
-/
theorem followsCalls_ofCalls
    (calls : List (RegistryCall α))
    (className : Name)
    (arguments : List (Literal α))
    (span : Span) :
    (ofCalls calls).FollowsCalls calls className arguments span := by
  constructor
  case lookup =>
    exact lookup_ofCalls calls className
  case unknown =>
    exact lookup_ofCalls_eq_notFound_iff
  case size =>
    exact size_ofCalls calls
  case runs =>
    intro constructor selects
    exact construct_of_selects (selects_ofCalls_iff.2 selects) span
  case idle =>
    intro notSelects
    exact events_construct_of_not_selects (fun _ => mt selects_ofCalls_iff.1 (notSelects _)) span
  case unaltered =>
    exact fun other => construct_ofCalls_altered other calls className arguments span
  case builds =>
    intro entity
    simp only [construct_eq_ok_iff_selects, selects_ofCalls_iff]
  case invalidClass =>
    rw [failsWith_invalidClass_iff, lookup_ofCalls_eq_notFound_iff]
  case incompatibleClass =>
    rw [failsWith_incompatibleClass_iff, lookup_ofCalls_eq_notConstructible_iff]
  case incompatibleInitializer =>
    simp only [failsWith_incompatibleInitializer_iff, lookup_ofCalls_eq_found_iff]
  case initializationError =>
    simp only [failsWith_initializationError_iff, selects_ofCalls_iff]
  case reason =>
    intro error failed isKind
    obtain ⟨constructor, reason, selects, fails, rfl⟩ :=
      exists_reason_of_construct_eq_error failed isKind
    exact ⟨constructor, reason, selects_ofCalls_iff.1 selects, fails, rfl, rfl⟩
  case kind =>
    exact fun error => kind_mem_of_construct_eq_error

end Registry

end LevelScript
