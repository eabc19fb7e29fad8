import LevelScript.Proofs.Grammar.Respan
import LevelScript.Session
import Mathlib.Data.List.Forall2

namespace LevelScript

/-!
# Runs of statements at other places

The places of statements serve to locate errors and nothing else. Two lists of statements
that differ in their places only are run in lockstep: they build the same sessions, and if
one fails so does the other, for the same fault and at the corresponding place.
-/

/-! ## Corresponding statements -/

/-- The same value at corresponding places. -/
structure Located.Corresponds
    (places : Span → Span → Prop)
    (first second : Located α) :
    Prop where
  value_eq : first.value = second.value
  span : places first.span second.span

/-- The same statement with corresponding places of its names. -/
inductive Statement.Corresponds
    (places : Span → Span → Prop) :
    Statement α → Statement α → Prop where
  | abbreviation
      {short short' className className' : Located Name} :
      short.Corresponds places short' →
      className.Corresponds places className' →
      Corresponds places (.abbreviation short className) (.abbreviation short' className')
  | declaration
      {name name' className className' : Located Name}
      {arguments arguments' : List (Located (Literal α))} :
      name.Corresponds places name' →
      className.Corresponds places className' →
      arguments.map Located.value = arguments'.map Located.value →
      Corresponds places (.declaration name className arguments)
        (.declaration name' className' arguments')
  | absolute
      {name name' : Located Name}
      {position position' : Located (Vec3 α)} :
      name.Corresponds places name' →
      position.value = position'.value →
      Corresponds places (.placement name position none) (.placement name' position' none)
  | relative
      {name name' origin origin' : Located Name}
      {position position' : Located (Vec3 α)} :
      name.Corresponds places name' →
      position.value = position'.value →
      origin.Corresponds places origin' →
      Corresponds places (.placement name position (some origin))
        (.placement name' position' (some origin'))
  | connection
      {moved moved' movedConnector movedConnector' : Located Name}
      {base base' baseConnector baseConnector' : Located Name} :
      moved.Corresponds places moved' →
      movedConnector.Corresponds places movedConnector' →
      base.Corresponds places base' →
      baseConnector.Corresponds places baseConnector' →
      Corresponds places (.connection moved movedConnector base baseConnector)
        (.connection moved' movedConnector' base' baseConnector')

/-- Corresponding statements at corresponding places. -/
structure Located.StatementsCorrespond
    (places : Span → Span → Prop)
    (first second : Located (Statement α)) :
    Prop where
  value : first.value.Corresponds places second.value
  span : places first.span second.span

/-! ## Corresponding outcomes -/

/-- The same result, or the same fault at corresponding places. -/
inductive SameOutcome
    (places : Span → Span → Prop) :
    Except LoadError β → Except LoadError β → Prop where
  | ok
      (result : β) :
      SameOutcome places (.ok result) (.ok result)
  | error
      (fault : LoadFault)
      {first second : Span} :
      places first second →
      SameOutcome places (.error ⟨fault, first⟩) (.error ⟨fault, second⟩)

namespace SameOutcome

variable {places : Span → Span → Prop}

/-- After the same result computations go on from the same state. -/
theorem bind
    {first second : Except LoadError β}
    {next other : β → Except LoadError γ}
    (same : SameOutcome places first second)
    (goesOn : ∀ result, SameOutcome places (next result) (other result)) :
    SameOutcome places (first >>= next) (second >>= other) := by
  cases same with
  | ok result =>
      exact goesOn result
  | error fault corresponds =>
      exact .error fault corresponds

end SameOutcome

/-! ## Lockstep -/

variable {places : Span → Span → Prop} {α : Type}

namespace Registry

theorem resolve_sameOutcome
    (registry : Registry α)
    (className : Name)
    {first second : Span}
    (corresponds : places first second) :
    SameOutcome places (registry.resolve className first)
      (registry.resolve className second) := by
  unfold resolve
  cases registry.lookup className with
  | found entityClass =>
      exact .ok entityClass
  | notFound =>
      exact .error _ corresponds
  | notConstructible =>
      exact .error _ corresponds

theorem construct_sameOutcome
    (registry : Registry α)
    (className : Name)
    (arguments : List (Literal α))
    {first second : Span}
    (corresponds : places first second) :
    SameOutcome places (registry.construct className arguments first).outcome
      (registry.construct className arguments second).outcome := by
  have sameClass := registry.resolve_sameOutcome className corresponds
  simp only [construct, Logged.outcome_bind, Logged.outcome_monadLift]
  refine sameClass.bind ?_
  intro entityClass
  cases entityClass.findConstructor? arguments with
  | none =>
      exact .error _ corresponds
  | some constructor =>
      simp only [Logged.outcome_bind, Logged.outcome_emit, Logged.outcome_ofExcept]
      cases constructor.build arguments with
      | ok entity =>
          exact .ok entity
      | error reason =>
          exact .error _ corresponds

end Registry

namespace Session

theorem lookup_sameOutcome
    (session : Session α)
    {name name' : Located Name}
    (corresponds : name.Corresponds places name') :
    SameOutcome places (session.lookup name) (session.lookup name') := by
  unfold lookup
  rw [corresponds.value_eq]
  cases session.names.get? name'.value with
  | none =>
      exact .error _ corresponds.span
  | some index =>
      dsimp only
      cases session.entities[index]? with
      | none =>
          exact .error _ corresponds.span
      | some placed =>
          exact .ok _

theorem connector_sameOutcome
    (placed : PlacedEntity α)
    {entity entity' connector connector' : Located Name}
    (entityCorresponds : entity.Corresponds places entity')
    (connectorCorresponds : connector.Corresponds places connector') :
    SameOutcome places (Session.connector placed entity connector)
      (Session.connector placed entity' connector') := by
  unfold Session.connector
  rw [entityCorresponds.value_eq, connectorCorresponds.value_eq]
  cases placed.connectors with
  | none =>
      exact .error _ entityCorresponds.span
  | some connectors =>
      dsimp only
      cases connectors.get? connector'.value with
      | none =>
          exact .error _ connectorCorresponds.span
      | some found =>
          exact .ok found

theorem abbreviate_sameOutcome
    (registry : Registry α)
    (session : Session α)
    {short short' className className' : Located Name}
    (shortCorresponds : short.Corresponds places short')
    (classCorresponds : className.Corresponds places className') :
    SameOutcome places (session.abbreviate registry short className).outcome
      (session.abbreviate registry short' className').outcome := by
  have sameClass := registry.resolve_sameOutcome className'.value classCorresponds.span
  unfold abbreviate
  rw [shortCorresponds.value_eq, classCorresponds.value_eq]
  simp only [Logged.outcome_bind, Logged.outcome_monadLift]
  refine sameClass.bind ?_
  intro entityClass
  cases session.aliases.get? short'.value <;> exact .ok _

theorem checkName_sameOutcome
    (policy : RedeclarationPolicy)
    (session : Session α)
    {name name' : Located Name}
    (corresponds : name.Corresponds places name') :
    SameOutcome places (checkName policy session name).outcome
      (checkName policy session name').outcome := by
  unfold checkName
  rw [corresponds.value_eq]
  cases session.names.contains name'.value with
  | false =>
      exact .ok ()
  | true =>
      cases policy with
      | allow =>
          exact .ok ()
      | reject =>
          exact .error _ corresponds.span

theorem declare_sameOutcome
    (registry : Registry α)
    (policy : RedeclarationPolicy)
    (session : Session α)
    {span span' : Span}
    {name name' className className' : Located Name}
    {arguments arguments' : List (Located (Literal α))}
    (corresponds : places span span')
    (nameCorresponds : name.Corresponds places name')
    (classCorresponds : className.Corresponds places className')
    (sameArguments : arguments.map Located.value = arguments'.map Located.value) :
    SameOutcome places
      (session.declare registry policy span name className arguments).outcome
      (session.declare registry policy span' name' className' arguments').outcome := by
  have sameCheck := checkName_sameOutcome policy session nameCorresponds
  unfold declare
  rw [sameArguments, classCorresponds.value_eq, nameCorresponds.value_eq]
  simp only [Logged.outcome_bind]
  refine sameCheck.bind ?_
  intro checked
  have sameEntity :=
    registry.construct_sameOutcome (session.expandClass className'.value)
      (arguments'.map Located.value) corresponds
  exact sameEntity.bind fun entity => .ok _

variable [Scalar α]

theorem place_sameOutcome
    (session : Session α)
    {name name' : Located Name}
    (position : Vec3 α)
    {relativeTo relativeTo' : Option (Located Name)}
    (nameCorresponds : name.Corresponds places name')
    (originCorresponds :
      (relativeTo = none ∧ relativeTo' = none) ∨
        ∃ origin origin',
          relativeTo = some origin ∧
            relativeTo' = some origin' ∧
            origin.Corresponds places origin') :
    SameOutcome places (session.place name position relativeTo).outcome
      (session.place name' position relativeTo').outcome := by
  have sameEntity := session.lookup_sameOutcome nameCorresponds
  unfold place
  rw [nameCorresponds.value_eq]
  simp only [Logged.outcome_bind, Logged.outcome_monadLift]
  refine sameEntity.bind ?_
  intro found
  rcases originCorresponds with ⟨rfl, rfl⟩ | ⟨origin, origin', rfl, rfl, corresponds⟩
  · exact .ok _
  · have sameOrigin := session.lookup_sameOutcome corresponds
    simp only [Logged.outcome_bind, Logged.outcome_monadLift]
    exact sameOrigin.bind fun origin => .ok _

theorem connect_sameOutcome
    (session : Session α)
    {moved moved' movedConnector movedConnector' : Located Name}
    {base base' baseConnector baseConnector' : Located Name}
    (movedCorresponds : moved.Corresponds places moved')
    (movedConnectorCorresponds : movedConnector.Corresponds places movedConnector')
    (baseCorresponds : base.Corresponds places base')
    (baseConnectorCorresponds : baseConnector.Corresponds places baseConnector') :
    SameOutcome places (session.connect moved movedConnector base baseConnector).outcome
      (session.connect moved' movedConnector' base' baseConnector').outcome := by
  have sameMoved := session.lookup_sameOutcome movedCorresponds
  have sameBase := session.lookup_sameOutcome baseCorresponds
  unfold connect
  rw [movedCorresponds.value_eq, baseCorresponds.value_eq]
  simp only [Logged.outcome_bind, Logged.outcome_monadLift]
  refine sameMoved.bind ?_
  intro movedEntity
  refine sameBase.bind ?_
  intro baseEntity
  have sameMovedSocket :=
    connector_sameOutcome movedEntity.placed movedCorresponds movedConnectorCorresponds
  refine sameMovedSocket.bind ?_
  intro movedSocket
  have sameBaseSocket :=
    connector_sameOutcome baseEntity.placed baseCorresponds baseConnectorCorresponds
  exact sameBaseSocket.bind fun baseSocket => .ok _

theorem step_sameOutcome
    (registry : Registry α)
    (policy : RedeclarationPolicy)
    (session : Session α)
    {first second : Located (Statement α)}
    (corresponds : first.StatementsCorrespond places second) :
    SameOutcome places (session.step registry policy first).outcome
      (session.step registry policy second).outcome := by
  obtain ⟨firstValue, firstSpan⟩ := first
  obtain ⟨secondValue, secondSpan⟩ := second
  obtain ⟨valueCorresponds, spanCorresponds⟩ := corresponds
  simp only [step, Logged.outcome_bind, Logged.outcome_emit]
  refine SameOutcome.bind (.ok ()) ?_
  intro announced
  cases valueCorresponds with
  | abbreviation shortCorresponds classCorresponds =>
      exact session.abbreviate_sameOutcome registry shortCorresponds classCorresponds
  | declaration nameCorresponds classCorresponds sameArguments =>
      exact
        session.declare_sameOutcome registry policy spanCorresponds nameCorresponds
          classCorresponds sameArguments
  | absolute nameCorresponds samePosition =>
      simp only [samePosition]
      exact session.place_sameOutcome _ nameCorresponds (Or.inl ⟨rfl, rfl⟩)
  | relative nameCorresponds samePosition originCorresponds =>
      simp only [samePosition]
      exact
        session.place_sameOutcome _ nameCorresponds
          (Or.inr ⟨_, _, rfl, rfl, originCorresponds⟩)
  | connection movedCorresponds movedConnectorCorresponds baseCorresponds
      baseConnectorCorresponds =>
      exact
        session.connect_sameOutcome movedCorresponds movedConnectorCorresponds baseCorresponds
          baseConnectorCorresponds

/-- Statements are run alike at corresponding places, however many there are. -/
theorem run_sameOutcome
    (registry : Registry α)
    (policy : RedeclarationPolicy)
    (session : Session α)
    {first second : List (Located (Statement α))}
    (corresponds : List.Forall₂ (Located.StatementsCorrespond places) first second) :
    SameOutcome places (session.run registry policy first).outcome
      (session.run registry policy second).outcome := by
  induction corresponds generalizing session with
  | nil =>
      exact .ok session
  | cons statementCorresponds _ inductionHypothesis =>
      have sameStep := session.step_sameOutcome registry policy statementCorresponds
      simp only [run, Logged.outcome_bind]
      exact sameStep.bind inductionHypothesis

end Session

/-- Levels are built alike from statements at corresponding places. -/
theorem Level.ofStatements_sameOutcome
    [Scalar α]
    (registry : Registry α)
    (policy : RedeclarationPolicy)
    {first second : List (Located (Statement α))}
    (corresponds : List.Forall₂ (Located.StatementsCorrespond places) first second) :
    SameOutcome places (ofStatements registry policy first).outcome
      (ofStatements registry policy second).outcome := by
  have sameSession := Session.empty.run_sameOutcome registry policy corresponds
  simp only [ofStatements, Logged.outcome_bind, Logged.outcome_emit]
  refine SameOutcome.bind (.ok ()) ?_
  intro announced
  exact sameSession.bind fun session => .ok _

end LevelScript
