import LevelScript.Proofs.Construction.Schema
import Mathlib.Data.List.Forall2

namespace LevelScript

/-!
# Registries that agree

Two registries agree if nothing but transforms and the reasons of failures can differ in what
they construct: the same names stand for classes, the classes have the same signatures, and
entities built in the same way have connectors of the same names. A registry of schemas never
fails to build.
-/

variable {α : Type}

/-- The names of a table are those that it has a value for. -/
theorem Table.mem_names_iff
    {β : Type}
    {table : Table β}
    {name : Name} :
    name ∈ table.names ↔ table.contains name := by
  unfold Table.names Table.contains Table.get?
  induction table.entries with
  | nil =>
      simp [findValue?]
  | cons entry rest inductionHypothesis =>
      obtain ⟨key, value⟩ := entry
      by_cases same : key = name
      · simp [findValue?, same]
      · simp [findValue?, same, Ne.symm same, inductionHypothesis]

/-- Entities can be connected by the same names, or neither can be connected at all. -/
def Connectors.SameNames :
    Option (Connectors α) →
    Option (Connectors α) →
    Prop :=
  Option.Rel fun first second => ∀ name, name ∈ first.names ↔ name ∈ second.names

/-- Constructors of the same signature that build entities with connectors of the same names. -/
structure Constructor.Agrees
    (first second : Constructor α) :
    Prop where
  params : first.params = second.params
  connectors : ∀ arguments entity counterpart,
    first.accepts arguments →
      first.build arguments = .ok entity →
      second.build arguments = .ok counterpart →
      Connectors.SameNames entity.connectors counterpart.connectors

/-- Names that both stand for nothing, for no class of entities, or for classes that agree. -/
inductive Lookup.Agrees :
    Lookup α → Lookup α → Prop where
  | notFound :
      Agrees .notFound .notFound
  | notConstructible :
      Agrees .notConstructible .notConstructible
  | found
      {first second : EntityClass α} :
      List.Forall₂ Constructor.Agrees first.constructors second.constructors →
      Agrees (.found first) (.found second)

namespace Registry

/-- Every name stands for the same in both registries, as far as one can see without building. -/
def Agrees
    (first second : Registry α) :
    Prop :=
  ∀ name, (first.lookup name).Agrees (second.lookup name)

/-- Every constructor builds an entity from all arguments that it accepts. -/
def NeverFails
    (registry : Registry α) :
    Prop :=
  ∀ name entityClass constructor arguments,
    registry.lookup name = .found entityClass →
      constructor ∈ entityClass.constructors →
      constructor.accepts arguments →
      ∃ entity, constructor.build arguments = .ok entity

end Registry

/-! ## Registration -/

namespace Registry

theorem agrees_empty :
    (empty : Registry α).Agrees empty :=
  fun _ => .notFound

/-- Registries still agree with one more class each if these classes agree. -/
theorem Agrees.register
    {first second : Registry α}
    (agree : first.Agrees second)
    {entityClass counterpart : EntityClass α}
    (sameName : entityClass.name = counterpart.name)
    (constructors :
      List.Forall₂ Constructor.Agrees entityClass.constructors counterpart.constructors) :
    (first.register entityClass).Agrees (second.register counterpart) := by
  intro name
  rw [lookup_register, lookup_register, ← sameName]
  split
  · exact .found constructors
  · exact agree name

/-- Probes are built from whatever their constructors accept. -/
theorem neverFails_ofSchema
    [Scalar α]
    (classes : List (ClassSchema α)) :
    (ofSchema classes).NeverFails := by
  intro name entityClass constructor arguments isClass member _
  obtain ⟨schema, _, rfl⟩ := exists_schema_of_lookup isClass
  obtain ⟨params, _, rfl⟩ := List.mem_map.1 member
  exact ⟨schema.probe, rfl⟩

end Registry

/-! ## Construction -/

namespace EntityClass

variable {first second : EntityClass α}

theorem signatures_eq
    (agree : List.Forall₂ Constructor.Agrees first.constructors second.constructors) :
    first.signatures = second.signatures := by
  unfold signatures
  generalize first.constructors = constructors at agree ⊢
  generalize second.constructors = counterparts at agree ⊢
  induction agree with
  | nil =>
      rfl
  | cons agrees _ inductionHypothesis =>
      rw [List.map_cons, List.map_cons, agrees.params, inductionHypothesis]

/-- Classes that agree choose constructors at the same place for the same arguments. -/
theorem findConstructor?_agrees
    (agree : List.Forall₂ Constructor.Agrees first.constructors second.constructors)
    (arguments : List (Literal α)) :
    Option.Rel Constructor.Agrees (first.findConstructor? arguments)
      (second.findConstructor? arguments) := by
  unfold findConstructor?
  generalize first.constructors = constructors at agree ⊢
  generalize second.constructors = counterparts at agree ⊢
  induction agree with
  | nil =>
      exact .none
  | @cons constructor counterpart _ _ agrees _ inductionHypothesis =>
      have sameChoice : constructor.accepts arguments = counterpart.accepts arguments := by
        simp [Constructor.accepts, agrees.params]
      rw [List.find?_cons, List.find?_cons, ← sameChoice]
      cases constructor.accepts arguments with
      | true =>
          exact .some agrees
      | false =>
          exact inductionHypothesis

end EntityClass

/-! ## Two registries in step -/

/--
A statement ends alike with two registries, or it succeeds with the first one and fails in a
constructor of the second, which is then a registry that can fail.
-/
inductive InStep
    (second : Registry α)
    (span : Span)
    (results : β → γ → Prop) :
    Except LoadError β → Except LoadError γ → Prop where
  | related
      {outcome : Except LoadError β}
      {counterpart : Except LoadError γ} :
      Outcome.Related results outcome counterpart →
      InStep second span results outcome counterpart
  | constructorFailed
      (result : β)
      (className : Name)
      (reason : String) :
      ¬second.NeverFails →
      InStep second span results (.ok result)
        (.error ⟨.constructorFailed className reason, span⟩)

namespace InStep

variable {second : Registry α} {span : Span}

/-- What comes before a constructor ends alike with both registries. -/
theorem bind_of_related
    {earlierResults : β → β' → Prop}
    {results : γ → γ' → Prop}
    {outcome : Except LoadError β}
    {counterpart : Except LoadError β'}
    {next : β → Except LoadError γ}
    {other : β' → Except LoadError γ'}
    (related : Outcome.Related earlierResults outcome counterpart)
    (goesOn : ∀ {result counterpart}, earlierResults result counterpart →
      InStep second span results (next result) (other counterpart)) :
    InStep second span results (outcome >>= next) (counterpart >>= other) := by
  cases related with
  | ok results =>
      exact goesOn results
  | error error =>
      exact .related (.error error)

/-- What comes after a constructor cannot fail. -/
theorem bind_ok
    {earlierResults : β → β' → Prop}
    {results : γ → γ' → Prop}
    {outcome : Except LoadError β}
    {counterpart : Except LoadError β'}
    {next : β → γ}
    {other : β' → γ'}
    (inStep : InStep second span earlierResults outcome counterpart)
    (goesOn : ∀ {result counterpart}, earlierResults result counterpart →
      results (next result) (other counterpart)) :
    InStep second span results (outcome >>= fun result => .ok (next result))
      (counterpart >>= fun result => .ok (other result)) := by
  cases inStep with
  | related related =>
      exact .related (related.bind fun results => .ok (goesOn results))
  | constructorFailed result className reason canFail =>
      exact .constructorFailed (next result) className reason canFail

end InStep

namespace Registry

variable {first second : Registry α}

/-- A constructor that builds nothing from what it accepts is one that can fail. -/
theorem not_neverFails
    {registry : Registry α}
    {className : Name}
    {entityClass : EntityClass α}
    {constructor : Constructor α}
    {arguments : List (Literal α)}
    {reason : String}
    (isClass : registry.lookup className = .found entityClass)
    (isFirst : entityClass.findConstructor? arguments = some constructor)
    (fails : constructor.build arguments = .error reason) :
    ¬registry.NeverFails := by
  intro neverFails
  obtain ⟨member, accepts⟩ := mem_and_accepts_of_findConstructor? isFirst
  obtain ⟨entity, builds⟩ :=
    neverFails className entityClass constructor arguments isClass member accepts
  rw [fails] at builds
  cases builds

theorem Agrees.related_resolve
    (agree : first.Agrees second)
    (className : Name)
    (span : Span) :
    Outcome.Related (fun _ _ => True) (first.resolve className span)
      (second.resolve className span) := by
  have agrees := agree className
  unfold resolve
  generalize first.lookup className = lookup at agrees ⊢
  generalize second.lookup className = counterpart at agrees ⊢
  cases agrees with
  | notFound =>
      exact .error _
  | notConstructible =>
      exact .error _
  | found _ =>
      exact .ok trivial

/-- Entities that are built alike have connectors of the same names. -/
theorem Agrees.construct
    (agree : first.Agrees second)
    (neverFails : first.NeverFails)
    (className : Name)
    (arguments : List (Literal α))
    (span : Span) :
    InStep second span
      (fun entity counterpart =>
        Connectors.SameNames entity.connectors counterpart.connectors)
      (first.construct className arguments span).outcome
      (second.construct className arguments span).outcome := by
  have agrees := agree className
  rw [outcome_construct, outcome_construct, resolve, resolve]
  generalize isClass : first.lookup className = lookup at agrees ⊢
  generalize isCounterpart : second.lookup className = counterpart at agrees ⊢
  cases agrees with
  | notFound =>
      exact .related (.error _)
  | notConstructible =>
      exact .related (.error _)
  | @found entityClass otherClass constructors =>
      have sameChoice := EntityClass.findConstructor?_agrees constructors arguments
      have sameSignatures := EntityClass.signatures_eq constructors
      simp only [bind, Except.bind, sameSignatures]
      generalize isFirst : entityClass.findConstructor? arguments = chosen at sameChoice ⊢
      generalize isOther : otherClass.findConstructor? arguments = otherChosen at sameChoice ⊢
      cases sameChoice with
      | none =>
          exact .related (.error _)
      | @some constructor otherConstructor agrees =>
          obtain ⟨member, accepts⟩ := mem_and_accepts_of_findConstructor? isFirst
          obtain ⟨entity, builds⟩ :=
            neverFails className entityClass constructor arguments isClass member accepts
          cases otherBuilds : otherConstructor.build arguments with
          | ok counterpart =>
              simp only [builds, otherBuilds, Except.mapError]
              exact
                .related
                  (.ok (agrees.connectors arguments entity counterpart accepts builds otherBuilds))
          | error reason =>
              simp only [builds, otherBuilds, Except.mapError]
              exact
                .constructorFailed entity className reason
                  (not_neverFails isCounterpart isOther otherBuilds)

end Registry

end LevelScript
