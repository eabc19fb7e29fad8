import Mathlib.Algebra.Field.Rat
import LevelScript.Proofs.Geometry.Pose
import LevelScript.Proofs.Construction.Schema
import LevelScript.Proofs.Session.Transition

namespace LevelScript

/-!
# Plans

A level of probes can be worked out from the declarations of its classes without registry and
without matrices. The plan keeps of each entity what it was declared with and its pose. It is
the same level, and where the level cannot be built, it fails with the same error.
-/

open scoped Exact

/-- An entity of a plan. -/
structure Body (K : Type) where
  name : Name
  className : Name
  pose : Pose K

/-- The abbreviations and the entities of the statements run so far. -/
structure Plan (K : Type) where
  abbreviations : List (Name × Name)
  bodies : List (Body K)

namespace Plan

variable {K : Type} [Field K] (classes : List (ClassSchema K)) (policy : RedeclarationPolicy)

/-- The plan before the first statement. -/
def empty : Plan K where
  abbreviations := []
  bodies := []

/-- The last entity of a name, with its position among the entities. -/
def find
    (plan : Plan K)
    (name : Located Name) :
    Except LoadError (Body K × Nat) :=
  match lastNamed? (fun numbered => numbered.1.name) name.value plan.bodies.zipIdx with
  | none => .error ⟨.unknownEntity name.value, name.span⟩
  | some numbered => .ok numbered

/-- The place of a connector, which the last entry of its name in the deciding schema gives. -/
def socket
    (body : Body K)
    (entity connector : Located Name) :
    Except LoadError (Vec3 K) :=
  match (lastNamed? ClassSchema.name body.className classes).bind ClassSchema.connectors with
  | none => .error ⟨.noConnectors entity.value, entity.span⟩
  | some connectors =>
      match lastNamed? ConnectorSchema.name connector.value connectors with
      | none => .error ⟨.noConnector entity.value connector.value, connector.span⟩
      | some declared => .ok declared.position

/-- The class that a name stands for, by the last abbreviation if it is a short name. -/
def expand
    (plan : Plan K)
    (className : Name) :
    Name :=
  ((lastNamed? Prod.fst className plan.abbreviations).map Prod.snd).getD className

/-- The plan with an entity in another pose. -/
def move
    (plan : Plan K)
    (numbered : Body K × Nat)
    (pose : Pose K) :
    Plan K :=
  { plan with bodies := plan.bodies.set numbered.2 { numbered.1 with pose } }

/-- A short name stands for a class that one of the schemas declares. -/
def abbreviate
    (plan : Plan K)
    (short className : Located Name) :
    Except LoadError (Plan K) := do
  let _ ← ClassSchema.resolve classes className.value className.span
  return { plan with
    abbreviations := plan.abbreviations ++ [(short.value, className.value)] }

/-- A name that is already declared is refused, if the policy says so. -/
def checkName
    (plan : Plan K)
    (name : Located Name) :
    Except LoadError Unit :=
  if policy = .reject ∧ ∃ body ∈ plan.bodies, body.name = name.value then
    .error ⟨.alreadyDeclared name.value, name.span⟩
  else
    .ok ()

/-- An entity starts at the origin, if its arguments are of declared kinds. -/
def declare
    (plan : Plan K)
    (span : Span)
    (name className : Located Name)
    (arguments : List (Located (Literal K))) :
    Except LoadError (Plan K) := do
  checkName policy plan name
  let expanded := plan.expand className.value
  let schema ← ClassSchema.resolve classes expanded span
  schema.checkKinds (arguments.map fun argument => argument.value.kind) span
  return { plan with bodies := plan.bodies ++ [⟨name.value, expanded, .origin⟩] }

/-- An entity gets another position and stays turned as it is. -/
def place
    (plan : Plan K)
    (name : Located Name)
    (position : Vec3 K)
    (relativeTo : Option (Located Name)) :
    Except LoadError (Plan K) := do
  let found ← plan.find name
  let target ←
    match relativeTo with
    | none => pure position
    | some other => do
        let origin ← plan.find other
        pure (position + origin.1.pose.position)
  return plan.move found (found.1.pose.withPosition target)

/-- An entity is turned round to face the base's connector with its own. -/
def connect
    (plan : Plan K)
    (moved movedConnector base baseConnector : Located Name) :
    Except LoadError (Plan K) := do
  let movedBody ← plan.find moved
  let baseBody ← plan.find base
  let movedPlace ← socket classes movedBody.1 moved movedConnector
  let basePlace ← socket classes baseBody.1 base baseConnector
  return plan.move movedBody (baseBody.1.pose.mated basePlace movedPlace)

/-- One statement is planned. -/
def step
    (plan : Plan K)
    (statement : Located (Statement K)) :
    Except LoadError (Plan K) :=
  match statement.value with
  | .abbreviation short className => plan.abbreviate classes short className
  | .declaration name className arguments =>
      plan.declare classes policy statement.span name className arguments
  | .placement name position relativeTo => plan.place name position.value relativeTo
  | .connection moved movedConnector base baseConnector =>
      plan.connect classes moved movedConnector base baseConnector

/-- The plan of a list of statements. -/
def ofStatements
    (statements : List (Located (Statement K))) :
    Except LoadError (Plan K) :=
  statements.foldlM (step classes policy) empty

/-! ## Plans as sessions -/

/-- The probe that a body stands for. -/
def placed
    (body : Body K) :
    PlacedEntity K where
  name := body.name
  className := body.className
  entity :=
    {
      transform := body.pose.toTransform
      connectors := (lastNamed? ClassSchema.name body.className classes).bind fun schema =>
        schema.connectors.map fun connectors =>
          Table.ofList (connectors.map ConnectorSchema.entry)
    }

/-- The session of probes that a plan stands for. -/
def toSession
    (plan : Plan K) :
    Session K where
  aliases := Table.ofList plan.abbreviations
  names := Table.ofList (plan.bodies.map Body.name).zipIdx
  entities := plan.bodies.map (placed classes)

/-- The level of probes that a plan stands for. -/
def toLevel
    (plan : Plan K) :
    Level K where
  entities := plan.bodies.map (placed classes)
  bindings := Table.ofList (plan.bodies.map Body.name).zipIdx

/-- The found probe that a found body stands for. -/
def foundOf
    (numbered : Body K × Nat) :
    Session.Found K where
  index := numbered.2
  placed := placed classes numbered.1

/-! ## One operation at a time -/

section Operations

variable (plan : Plan K)

theorem get?_names_toSession
    (name : Name) :
    (plan.toSession classes).names.get? name =
      (lastNamed? (fun numbered => numbered.1.name) name plan.bodies.zipIdx).map Prod.snd := by
  have numbered : (plan.bodies.map Body.name).zipIdx =
      plan.bodies.zipIdx.map fun numbered => (numbered.1.name, numbered.2) := by
    rw [List.zipIdx_map]
    rfl
  rw [toSession, Table.get?_ofList, numbered, lastNamed?_map, Option.map_map]
  rfl

omit [Field K] in
theorem getElem?_of_lastNamed?
    {plan : Plan K}
    {name : Name}
    {numbered : Body K × Nat}
    (isLast : lastNamed? (fun numbered => numbered.1.name) name plan.bodies.zipIdx =
      some numbered) :
    plan.bodies[numbered.2]? = some numbered.1 :=
  List.mk_mem_zipIdx_iff_getElem?.1 (mem_of_lastNamed? isLast).1

/-- A body is found where the session finds its probe. -/
theorem lookup_toSession
    (name : Located Name) :
    (plan.toSession classes).lookup name = foundOf classes <$> plan.find name := by
  unfold Session.lookup find
  rw [get?_names_toSession]
  cases isLast : lastNamed? (fun numbered => numbered.1.name) name.value plan.bodies.zipIdx with
  | none =>
      rfl
  | some numbered =>
      simp only [Option.map_some, toSession, List.getElem?_map, getElem?_of_lastNamed? isLast]
      rfl

omit [Field K] in
theorem getElem?_of_find
    {plan : Plan K}
    {name : Located Name}
    {numbered : Body K × Nat}
    (isFound : plan.find name = .ok numbered) :
    plan.bodies[numbered.2]? = some numbered.1 := by
  unfold find at isFound
  cases isLast : lastNamed? (fun numbered => numbered.1.name) name.value plan.bodies.zipIdx with
  | none =>
      rw [isLast] at isFound
      cases isFound
  | some last =>
      rw [isLast] at isFound
      cases isFound
      exact getElem?_of_lastNamed? isLast

/-- A connector of a probe is where the deciding schema declares it last. -/
theorem connector_placed
    (body : Body K)
    (entity connector : Located Name) :
    Session.connector (placed classes body) entity connector =
      Connector.ofPosition <$> socket classes body entity connector := by
  unfold Session.connector socket PlacedEntity.connectors placed
  dsimp only
  cases lastNamed? ClassSchema.name body.className classes with
  | none =>
      rfl
  | some schema =>
      simp only [Option.bind_some]
      cases schema.connectors with
      | none =>
          rfl
      | some connectors =>
          simp only [Option.map_some, ConnectorSchema.get?_ofList]
          cases lastNamed? ConnectorSchema.name connector.value connectors <;> rfl

/-- Moving a body moves its probe and nothing else. -/
theorem move_toSession
    {plan : Plan K}
    {numbered : Body K × Nat}
    (isHere : plan.bodies[numbered.2]? = some numbered.1)
    (pose : Pose K) :
    (plan.toSession classes).move (foundOf classes numbered) pose.toTransform =
      (plan.move numbered pose).toSession classes := by
  have sameNames :
      (plan.bodies.set numbered.2 { numbered.1 with pose }).map Body.name =
        plan.bodies.map Body.name :=
    Session.map_set_eq_map isHere rfl
  simp only [Session.move, toSession, move, sameNames, List.map_set]
  rfl

/-- A name is declared in the session if a body bears it. -/
theorem contains_toSession
    (name : Name) :
    (plan.toSession classes).names.contains name ↔ ∃ body ∈ plan.bodies, body.name = name := by
  unfold Table.contains
  rw [get?_names_toSession, Option.isSome_map, Option.isSome_iff_ne_none, ne_eq,
    lastNamed?_eq_none_iff]
  constructor
  · intro notAbsent
    push Not at notAbsent
    obtain ⟨numbered, member, isName⟩ := notAbsent
    exact ⟨numbered.1, List.fst_mem_of_mem_zipIdx member, isName⟩
  · rintro ⟨body, member, isName⟩ isAbsent
    obtain ⟨index, isHere⟩ := List.mem_iff_getElem?.1 member
    exact isAbsent (body, index) (List.mk_mem_zipIdx_iff_getElem?.2 isHere) isName

theorem checkName_toSession
    (name : Located Name) :
    (Session.checkName policy (plan.toSession classes) name).outcome =
      checkName policy plan name := by
  unfold Session.checkName checkName
  simp only [contains_toSession]
  by_cases isDeclared : ∃ body ∈ plan.bodies, body.name = name.value
  · cases policy <;> simp [isDeclared]
  · simp [isDeclared]

theorem expandClass_toSession
    (className : Name) :
    (plan.toSession classes).expandClass className = plan.expand className := by
  simp only [Session.expandClass, toSession, Table.get?_ofList, expand]

/-- The last abbreviation of a short name replaces earlier ones in the table. -/
theorem insert_toSession
    (short className : Name) :
    { plan.toSession classes with
      aliases := (plan.toSession classes).aliases.insert short className } =
      toSession classes
        { plan with abbreviations := plan.abbreviations ++ [(short, className)] } := by
  simp only [toSession, Table.ofList_concat]

/-- A probe is built in the pose in which its plan starts. -/
theorem placed_origin
    (name : Name)
    {className : Name}
    {schema : ClassSchema K}
    (isLast : lastNamed? ClassSchema.name className classes = some schema) :
    placed classes ⟨name, className, .origin⟩ = ⟨name, className, schema.probe⟩ := by
  unfold placed
  rw [isLast, Pose.toTransform_origin]
  rfl

/-- Another body is added at the end of the session, and its name stands for it. -/
theorem append_toSession
    (body : Body K) :
    (plan.toSession classes).append (placed classes body) =
      toSession classes { plan with bodies := plan.bodies ++ [body] } := by
  simp [Session.append, toSession, List.zipIdx_append, Table.ofList_concat, placed]

end Operations

/-! ## One statement -/

section Steps

variable (plan : Plan K)

theorem abbreviate_toSession
    (short className : Located Name) :
    ((plan.toSession classes).abbreviate (Registry.ofSchema classes) short className).outcome =
      toSession classes <$> plan.abbreviate classes short className := by
  unfold abbreviate
  rw [Session.outcome_abbreviate]
  simp only [Registry.resolve_ofSchema, bind_map_left, map_bind]
  refine Outcome.bind_congr_of_ok fun _ _ => ?_
  exact congrArg Except.ok (insert_toSession classes plan short.value className.value)

theorem declare_toSession
    (span : Span)
    (name className : Located Name)
    (arguments : List (Located (Literal K))) :
    ((plan.toSession classes).declare (Registry.ofSchema classes) policy span name className
        arguments).outcome =
      toSession classes <$> plan.declare classes policy span name className arguments := by
  unfold Session.declare declare
  simp only [Logged.outcome_bind, Logged.outcome_emit, Logged.outcome_pure,
    checkName_toSession, expandClass_toSession, Registry.construct_ofSchema, bind_assoc, map_bind,
    List.map_map]
  refine Outcome.bind_congr_of_ok fun _ _ => ?_
  refine Outcome.bind_congr_of_ok fun schema resolved => ?_
  refine Outcome.bind_congr_of_ok fun _ _ => ?_
  have isLast := ClassSchema.lastNamed?_of_resolve resolved
  have appends := append_toSession classes plan
    ⟨name.value, plan.expand className.value, .origin⟩
  rw [placed_origin classes name.value isLast] at appends
  exact congrArg Except.ok appends

theorem place_toSession
    (name : Located Name)
    (position : Vec3 K)
    (relativeTo : Option (Located Name)) :
    ((plan.toSession classes).place name position relativeTo).outcome =
      toSession classes <$> plan.place name position relativeTo := by
  unfold Session.place place
  cases relativeTo with
  | none =>
      simp only [lookup_toSession, Logged.outcome_bind, Logged.outcome_monadLift, bind_map_left,
        map_bind]
      refine Outcome.bind_congr_of_ok fun found isFound => ?_
      have moves := move_toSession classes (getElem?_of_find isFound)
        (found.1.pose.withPosition position)
      rw [← Pose.withPosition_toTransform] at moves
      exact congrArg Except.ok moves
  | some other =>
      simp only [lookup_toSession, Logged.outcome_bind, Logged.outcome_monadLift, bind_map_left,
        map_bind]
      refine Outcome.bind_congr_of_ok fun found isFound => ?_
      refine Outcome.bind_congr_of_ok fun origin _ => ?_
      have samePosition : (foundOf classes origin).placed.position = origin.1.pose.position :=
        Pose.position_toTransform _
      have moves := move_toSession classes (getElem?_of_find isFound)
        (found.1.pose.withPosition (position + origin.1.pose.position))
      rw [← Pose.withPosition_toTransform] at moves
      rw [samePosition]
      exact congrArg Except.ok moves

theorem connect_toSession
    (moved movedConnector base baseConnector : Located Name) :
    ((plan.toSession classes).connect moved movedConnector base baseConnector).outcome =
      toSession classes <$> plan.connect classes moved movedConnector base baseConnector := by
  unfold Session.connect connect
  simp only [lookup_toSession, foundOf, connector_placed, Logged.outcome_bind,
    Logged.outcome_monadLift, bind_map_left, map_bind]
  refine Outcome.bind_congr_of_ok fun movedBody isMoved => ?_
  refine Outcome.bind_congr_of_ok fun baseBody _ => ?_
  refine Outcome.bind_congr_of_ok fun movedPlace _ => ?_
  refine Outcome.bind_congr_of_ok fun basePlace _ => ?_
  have mated := Pose.matedTransform_toTransform baseBody.1.pose basePlace movedPlace
  have moves := move_toSession classes (getElem?_of_find isMoved)
    (baseBody.1.pose.mated basePlace movedPlace)
  rw [← mated] at moves
  exact congrArg Except.ok moves

/-- A statement does to the session of a plan what it does to the plan. -/
theorem step_toSession
    (statement : Located (Statement K)) :
    ((plan.toSession classes).step (Registry.ofSchema classes) policy statement).outcome =
      toSession classes <$> plan.step classes policy statement := by
  obtain ⟨value, span⟩ := statement
  cases value with
  | abbreviation short className =>
      exact abbreviate_toSession classes plan short className
  | declaration name className arguments =>
      exact declare_toSession classes policy plan span name className arguments
  | placement name position relativeTo =>
      exact place_toSession classes plan name position.value relativeTo
  | connection moved movedConnector base baseConnector =>
      exact connect_toSession classes plan moved movedConnector base baseConnector

/-- A run does to the session of a plan what it does to the plan. -/
theorem run_toSession
    (statements : List (Located (Statement K))) :
    ((plan.toSession classes).run (Registry.ofSchema classes) policy statements).outcome =
      toSession classes <$> statements.foldlM (step classes policy) plan := by
  induction statements generalizing plan with
  | nil =>
      rfl
  | cons statement rest inductionHypothesis =>
      simp only [Session.run, Logged.outcome_bind, step_toSession, bind_map_left,
        inductionHypothesis, List.foldlM_cons, map_bind]

end Steps

end Plan

/--
In exact arithmetic a level of probes is its plan: it has the same entities in the same poses
under the same names, and where the plan fails, the level fails with the same error.
-/
theorem Level.ofStatements_ofSchema
    {K : Type}
    [Field K]
    (classes : List (ClassSchema K))
    (policy : RedeclarationPolicy)
    (statements : List (Located (Statement K))) :
    (ofStatements (Registry.ofSchema classes) policy statements).outcome =
      Plan.toLevel classes <$> Plan.ofStatements classes policy statements := by
  have sameRun := Plan.run_toSession classes policy Plan.empty statements
  rw [outcome_ofStatements]
  change (Session.run _ _ (Plan.empty.toSession classes) _).outcome >>= _ = _
  rw [sameRun, bind_map_left]
  rfl

/-- Two boxes are joined lid to lid. -/
example :
    ((fun plan : Plan ℚ => plan.bodies.map Body.pose) <$>
        Plan.ofStatements
          [{
            name := ⟨"Box"⟩
            constructors := [[]]
            connectors := some [⟨⟨"lid"⟩, ⟨1, 2, 3⟩⟩]
          }]
          .reject
          [.unplaced (.declaration (.unplaced ⟨"a"⟩) (.unplaced ⟨"Box"⟩) []),
            .unplaced (.declaration (.unplaced ⟨"b"⟩) (.unplaced ⟨"Box"⟩) []),
            .unplaced
              (.connection (.unplaced ⟨"a"⟩) (.unplaced ⟨"lid"⟩) (.unplaced ⟨"b"⟩)
                (.unplaced ⟨"lid"⟩))]).toOption =
      some [⟨true, ⟨0, 4, 6⟩⟩, .origin] := by
  decide +kernel

end LevelScript
