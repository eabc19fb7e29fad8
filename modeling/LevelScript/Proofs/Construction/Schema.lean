import Mathlib.Data.List.Induction
import LevelScript.Proofs.Construction.Resolution
import LevelScript.Schema

namespace LevelScript

/-!
# Classes of schemas

Schemas are registered one after the other, and so are the connectors of one schema: what is
declared last decides. Everything that is found in the registry of some schemas, built by
its classes or connected to is said here in terms of the list of schemas itself.
-/

variable {α β : Type}

/-- The last item of a list that has a name. -/
def lastNamed?
    (nameOf : β → Name)
    (name : Name)
    (items : List β) :
    Option β :=
  (items.filter fun item => nameOf item = name).getLast?

section Last

variable {nameOf : β → Name} {name : Name}

/-- An item at the end is the last one of its name. -/
theorem lastNamed?_concat
    (items : List β)
    (last : β) :
    lastNamed? nameOf name (items ++ [last]) =
      if nameOf last = name then some last else lastNamed? nameOf name items := by
  unfold lastNamed?
  by_cases same : nameOf last = name
  · simp [same]
  · simp [same]

theorem lastNamed?_map
    {γ : Type}
    (view : γ → β)
    (items : List γ) :
    lastNamed? nameOf name (items.map view) =
      (lastNamed? (nameOf ∘ view) name items).map view := by
  simp only [lastNamed?, List.filter_map, List.getLast?_map]
  rfl

/-- A last item is one of the items and has the name. -/
theorem mem_of_lastNamed?
    {items : List β}
    {item : β}
    (isLast : lastNamed? nameOf name items = some item) :
    item ∈ items ∧ nameOf item = name := by
  have member := List.mem_of_getLast? isLast
  simpa using member

theorem lastNamed?_eq_none_iff
    {items : List β} :
    lastNamed? nameOf name items = none ↔ ∀ item ∈ items, nameOf item ≠ name := by
  simp [lastNamed?]

end Last

theorem Table.ofList_concat
    (pairs : List (Name × β))
    (last : Name × β) :
    ofList (pairs ++ [last]) = (ofList pairs).insert last.1 last.2 := by
  simp [ofList]

/-- A table made of pairs holds the last value of each name. -/
theorem Table.get?_ofList
    (pairs : List (Name × β))
    (name : Name) :
    (ofList pairs).get? name = (lastNamed? Prod.fst name pairs).map Prod.snd := by
  induction pairs using List.reverseRecOn with
  | nil =>
      rfl
  | append_singleton pairs last inductionHypothesis =>
      rw [ofList_concat, lastNamed?_concat]
      by_cases same : last.1 = name
      · subst same
        simp
      · rw [get?_insert_of_ne _ _ (Ne.symm same), inductionHypothesis, if_neg same]

/-! ## Declared classes -/

/-- The last connector of a name decides where it is. -/
theorem ConnectorSchema.get?_ofList
    [Scalar α]
    (connectors : List (ConnectorSchema α))
    (name : Name) :
    (Table.ofList (connectors.map entry)).get? name =
      (lastNamed? ConnectorSchema.name name connectors).map fun declared =>
        Connector.ofPosition declared.position := by
  rw [Table.get?_ofList, lastNamed?_map, Option.map_map]
  rfl

namespace ClassSchema

/-- The schema that decides about a class name; an error points at the given span. -/
def resolve
    (classes : List (ClassSchema α))
    (className : Name)
    (span : Span) :
    Except LoadError (ClassSchema α) :=
  match lastNamed? ClassSchema.name className classes with
  | none => .error ⟨.unknownClass className, span⟩
  | some schema =>
      if schema.isEntityClass then
        .ok schema
      else
        .error ⟨.notEntityClass className, span⟩

/-- One of the declared constructors takes arguments of exactly these kinds. -/
def checkKinds
    (schema : ClassSchema α)
    (kinds : List LiteralKind)
    (span : Span) :
    Except LoadError Unit :=
  if kinds ∈ schema.constructors then
    .ok ()
  else
    .error ⟨.noConstructor schema.name kinds schema.constructors, span⟩

theorem lastNamed?_of_resolve
    {classes : List (ClassSchema α)}
    {className : Name}
    {span : Span}
    {schema : ClassSchema α}
    (resolved : resolve classes className span = .ok schema) :
    lastNamed? ClassSchema.name className classes = some schema := by
  unfold resolve at resolved
  cases isLast : lastNamed? ClassSchema.name className classes with
  | none =>
      rw [isLast] at resolved
      cases resolved
  | some last =>
      rw [isLast] at resolved
      obtain ⟨_, rfl⟩ := Outcome.ite_eq_ok_iff.1 resolved
      rfl

variable [Scalar α]

/-- A class of a schema is found under its own name, unless it cannot be placed. -/
theorem lookup_register
    (registry : Registry α)
    (schema : ClassSchema α)
    (name : Name) :
    (register registry schema).lookup name =
      if name = schema.name then
        if schema.isEntityClass then .found schema.probeClass else .notConstructible
      else
        registry.lookup name := by
  unfold register
  split
  · rw [Registry.lookup_register]
    rfl
  · rw [Registry.lookup_registerOther]

theorem signatures_probeClass
    (schema : ClassSchema α) :
    schema.probeClass.signatures = schema.constructors := by
  simp [EntityClass.signatures, probeClass, Function.comp_def]

/-- Whichever constructor accepts the arguments, it builds the probe. -/
theorem findConstructor?_probeClass
    (schema : ClassSchema α)
    (arguments : List (Literal α)) :
    schema.probeClass.findConstructor? arguments =
      if arguments.map Literal.kind ∈ schema.constructors then
        some ⟨arguments.map Literal.kind, fun _ => .ok schema.probe⟩
      else
        none := by
  unfold EntityClass.findConstructor? probeClass
  dsimp only
  induction schema.constructors with
  | nil =>
      rfl
  | cons params rest inductionHypothesis =>
      rw [List.map_cons, List.find?_cons, inductionHypothesis]
      by_cases same : params = arguments.map Literal.kind
      · have accepted :
            (⟨params, fun _ => .ok schema.probe⟩ : Constructor α).accepts arguments = true :=
          Constructor.accepts_iff.2 same
        simp only [accepted, ← same, List.mem_cons, true_or, if_true]
      · have refused :
            (⟨params, fun _ => .ok schema.probe⟩ : Constructor α).accepts arguments = false :=
          Bool.eq_false_iff.2 (mt Constructor.accepts_iff.1 same)
        simp only [refused, List.mem_cons, Ne.symm same, false_or]

end ClassSchema

namespace Registry

variable [Scalar α] (classes : List (ClassSchema α))

/-- The last schema of a class name decides what the name stands for. -/
theorem lookup_ofSchema
    (name : Name) :
    (ofSchema classes).lookup name =
      match lastNamed? ClassSchema.name name classes with
      | none => .notFound
      | some schema =>
          if schema.isEntityClass then .found schema.probeClass else .notConstructible := by
  induction classes using List.reverseRecOn with
  | nil =>
      rfl
  | append_singleton classes schema inductionHypothesis =>
      have registered :
          ofSchema (classes ++ [schema]) = ClassSchema.register (ofSchema classes) schema := by
        simp [ofSchema]
      rw [registered, ClassSchema.lookup_register, lastNamed?_concat]
      by_cases same : schema.name = name
      · subst same
        simp only [if_true]
      · simp only [same, Ne.symm same, if_false, inductionHypothesis]

/-- Every class that is found is the one of a schema. -/
theorem exists_schema_of_lookup
    {classes : List (ClassSchema α)}
    {name : Name}
    {entityClass : EntityClass α}
    (isClass : (ofSchema classes).lookup name = .found entityClass) :
    ∃ schema ∈ classes, schema.probeClass = entityClass := by
  rw [lookup_ofSchema] at isClass
  cases isLast : lastNamed? ClassSchema.name name classes with
  | none =>
      rw [isLast] at isClass
      cases isClass
  | some schema =>
      rw [isLast] at isClass
      dsimp only at isClass
      split at isClass
      · cases isClass
        exact ⟨schema, (mem_of_lastNamed? isLast).1, rfl⟩
      · cases isClass

theorem resolve_ofSchema
    (className : Name)
    (span : Span) :
    (ofSchema classes).resolve className span =
      ClassSchema.probeClass <$> ClassSchema.resolve classes className span := by
  unfold resolve ClassSchema.resolve
  rw [lookup_ofSchema]
  cases lastNamed? ClassSchema.name className classes with
  | none =>
      rfl
  | some schema =>
      cases isEntityClass : schema.isEntityClass with
      | true =>
          simp only [isEntityClass, if_true]
          rfl
      | false =>
          simp only [isEntityClass]
          rfl

/-- Probes are built of what the deciding schema declares. -/
theorem construct_ofSchema
    (className : Name)
    (arguments : List (Literal α))
    (span : Span) :
    ((ofSchema classes).construct className arguments span).outcome = do
      let schema ← ClassSchema.resolve classes className span
      schema.checkKinds (arguments.map Literal.kind) span
      return schema.probe := by
  rw [outcome_construct, resolve_ofSchema, bind_map_left]
  cases resolved : ClassSchema.resolve classes className span with
  | error error =>
      rfl
  | ok schema =>
      obtain ⟨_, rfl⟩ := mem_of_lastNamed? (ClassSchema.lastNamed?_of_resolve resolved)
      simp only [bind, Except.bind, ClassSchema.findConstructor?_probeClass,
        ClassSchema.signatures_probeClass, ClassSchema.checkKinds]
      by_cases fits : arguments.map Literal.kind ∈ schema.constructors
      · simp only [fits, if_true]
        rfl
      · simp only [fits, if_false]

end Registry

end LevelScript
