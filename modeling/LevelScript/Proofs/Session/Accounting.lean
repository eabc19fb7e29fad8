import LevelScript.Loader
import LevelScript.Proofs.Session.Failure
import LevelScript.Proofs.Session.Log

namespace LevelScript

/-!
# The log of a run

A run announces every statement before it is run, and notes what the statement does to the
tables of the session. So the log adds up: from its records alone one can tell which statement
has failed, how many entities, names and abbreviations there are, and how often a name was
declared again.
-/

variable {α : Type}

/-! ## Counting events -/

namespace Event

/-- The events of a log with a message, in order. -/
def saying
    (message : String)
    (events : List (Event α)) :
    List (Event α) :=
  events.filter fun event => event.message = message

/-- How many events of a log have a message. -/
def count
    (message : String)
    (events : List (Event α)) :
    Nat :=
  events.countP fun event => event.message = message

@[simp] theorem saying_nil
    (message : String) :
    saying message ([] : List (Event α)) = [] :=
  rfl

@[simp] theorem saying_cons
    (message : String)
    (event : Event α)
    (events : List (Event α)) :
    saying message (event :: events) =
      if event.message = message then
        event :: saying message events
      else
        saying message events := by
  simp [saying, List.filter_cons]

@[simp] theorem saying_append
    (message : String)
    (first second : List (Event α)) :
    saying message (first ++ second) = saying message first ++ saying message second :=
  List.filter_append first second

theorem saying_eq_nil_iff
    {message : String}
    {events : List (Event α)} :
    saying message events = [] ↔ ∀ event ∈ events, event.message ≠ message := by
  simp [saying]

@[simp] theorem count_nil
    (message : String) :
    count message ([] : List (Event α)) = 0 :=
  rfl

@[simp] theorem count_cons
    (message : String)
    (event : Event α)
    (events : List (Event α)) :
    count message (event :: events) =
      count message events + if event.message = message then 1 else 0 := by
  simp [count, List.countP_cons]

@[simp] theorem count_append
    (message : String)
    (first second : List (Event α)) :
    count message (first ++ second) = count message first + count message second :=
  List.countP_append

/-- The messages about a level as a whole, which no statement gives. -/
def levelMessages : List String :=
  ["Level executed", "Level built", "Built level"]

/-- What statements do is told neither by an announcement nor by a message about the level. -/
theorem allowsEffects_unannounced
    (policy : RedeclarationPolicy) :
    AllowsEffects policy fun event : Event α =>
      event.message ∉ "Executing statement" :: levelMessages := by
  constructor <;> simp [message, levelMessages]

end Event

@[simp] theorem Located.message_announcement
    (statement : Located (Statement α)) :
    statement.announcement.message = "Executing statement" :=
  rfl

namespace Session

section Announcing

variable [Scalar α] {registry : Registry α} {policy : RedeclarationPolicy} {session : Session α}

/-- The announcements of one statement. -/
theorem saying_executing_step
    (registry : Registry α)
    (policy : RedeclarationPolicy)
    (session : Session α)
    (statement : Located (Statement α)) :
    Event.saying "Executing statement" (session.step registry policy statement).events =
      [statement.announcement] := by
  obtain ⟨effects, log, unannounced⟩ :=
    exists_events_step registry session (Event.allowsEffects_unannounced policy) statement
  have noneElse : Event.saying "Executing statement" effects = [] :=
    Event.saying_eq_nil_iff.2 fun event member isSaid =>
      unannounced event member (isSaid ▸ List.mem_cons_self)
  rw [log, Event.saying_cons, noneElse]
  rfl

/-- A run gives no message about the level. -/
theorem saying_level_run
    {message : String}
    (isLevel : message ∈ Event.levelMessages)
    (registry : Registry α)
    (policy : RedeclarationPolicy)
    (session : Session α)
    (statements : List (Located (Statement α))) :
    Event.saying message (session.run registry policy statements).events = [] := by
  rw [Event.saying_eq_nil_iff]
  induction statements generalizing session with
  | nil =>
      simp [run]
  | cons statement rest inductionHypothesis =>
      refine Logged.forall_events_bind ?_ fun next _ => inductionHypothesis next
      obtain ⟨effects, log, unannounced⟩ :=
        exists_events_step registry session (Event.allowsEffects_unannounced policy) statement
      rw [log, List.forall_mem_cons]
      refine ⟨?_, fun event member isSaid => ?_⟩
      · rintro rfl
        revert isLevel
        simp [Located.announcement, Event.message, Event.levelMessages]
      · exact unannounced event member (isSaid ▸ List.mem_cons_of_mem _ isLevel)

/-- Statements that run after some others log after them. -/
theorem events_run_append
    {first second : List (Located (Statement α))}
    {between : Session α}
    (ran : (session.run registry policy first).outcome = .ok between) :
    (session.run registry policy (first ++ second)).events =
      (session.run registry policy first).events ++
        (between.run registry policy second).events := by
  induction first generalizing session with
  | nil =>
      cases ran
      rfl
  | cons statement rest inductionHypothesis =>
      obtain ⟨next, succeeds, ranRest⟩ := run_cons_eq_ok_iff.1 ran
      have stepped := step_eq_ok_iff.2 succeeds
      rw [List.cons_append, run, run, Logged.events_bind_ok _ stepped,
        Logged.events_bind_ok _ stepped, inductionHypothesis ranRest, List.append_assoc]

end Announcing

/-! ## What adds up -/

/-- The log of statements that succeed adds up to the change of the tables. -/
structure Accounts
    (statements : List (Located (Statement α)))
    (events : List (Event α))
    (session next : Session α) :
    Prop where
  /-- The statements are announced in order. -/
  announced :
    Event.saying "Executing statement" events = statements.map Located.announcement
  /-- Every constructor that was run has built an entity. -/
  constructors :
    Event.count "Invoking constructor" events = Event.count "Constructed entity" events
  /-- The new entities are the constructed ones. -/
  entities :
    next.entities.length =
      session.entities.length + Event.count "Constructed entity" events
  /-- An entity adds a name unless it takes one that stands for an earlier entity. -/
  names :
    next.names.size +
        Event.count "Entity name rebound; the earlier entity stays in the level" events =
      session.names.size + Event.count "Constructed entity" events
  /-- Only the first definition of a short name adds one. -/
  aliases :
    next.aliases.size = session.aliases.size + Event.count "Alias defined" events
  /-- Every abbreviation is noted, as a new one or as another one. -/
  abbreviations :
    Event.count "Alias defined" events + Event.count "Alias redefined" events =
      statements.countP fun statement => statement.value.kind = .abbreviation

theorem accounts_nil
    (session : Session α) :
    Accounts [] [] session session where
  announced := rfl
  constructors := rfl
  entities := rfl
  names := rfl
  aliases := rfl
  abbreviations := rfl

/-- What adds up one after the other adds up together. -/
theorem Accounts.append
    {statements others : List (Located (Statement α))}
    {events more : List (Event α)}
    {session between next : Session α}
    (first : Accounts statements events session between)
    (second : Accounts others more between next) :
    Accounts (statements ++ others) (events ++ more) session next where
  announced := by
    rw [Event.saying_append, first.announced, second.announced, List.map_append]
  constructors := by
    rw [Event.count_append, Event.count_append, first.constructors, second.constructors]
  entities := by
    rw [Event.count_append, second.entities, first.entities, Nat.add_assoc]
  names := by
    have := first.names
    have := second.names
    simp only [Event.count_append]
    omega
  aliases := by
    rw [Event.count_append, second.aliases, first.aliases, Nat.add_assoc]
  abbreviations := by
    have := first.abbreviations
    have := second.abbreviations
    simp only [Event.count_append, List.countP_append]
    omega

/-- A statement that logs nothing but a motion leaves all numbers as they are. -/
theorem accounts_motion
    {session : Session α}
    {statement : Located (Statement α)}
    {event : Event α}
    {found : Found α}
    (isOther : statement.value.kind ≠ .abbreviation)
    (isMotion :
      event.message = "Positioned entity" ∨ event.message = "Connected entities")
    (transform : Transform α) :
    Accounts [statement] [statement.announcement, event] session
      (session.move found transform) := by
  rcases isMotion with isMotion | isMotion <;>
    constructor <;>
      simp [isMotion, isOther, move]

section Steps

variable [Scalar α] {registry : Registry α} {policy : RedeclarationPolicy}
  {session next : Session α}

theorem accounts_abbreviation
    {short className : Located Name}
    {span : Span}
    {entityClass : EntityClass α}
    (resolved : registry.resolve className.value className.span = .ok entityClass) :
    Accounts [⟨.abbreviation short className, span⟩]
      (session.step registry policy ⟨.abbreviation short className, span⟩).events
      session
      { session with aliases := session.aliases.insert short.value className.value } := by
  rw [events_step]
  dsimp only
  rw [events_abbreviate resolved]
  cases stored : session.aliases.get? short.value with
  | none =>
      have size := session.aliases.size_insert_of_get?_eq_none className.value stored
      constructor <;> simp [Event.message, Located.announcement, Statement.kind, size]
  | some previous =>
      have size := session.aliases.size_insert_of_get?_isSome className.value
        (Option.isSome_of_eq_some stored)
      constructor <;> simp [Event.message, Located.announcement, Statement.kind, size]

theorem accounts_declaration
    {name className : Located Name}
    {arguments : List (Located (Literal α))}
    {span : Span}
    {entity : Entity α}
    (fresh : policy = .reject → session.names.get? name.value = none)
    (built :
      (registry.construct (session.expandClass className.value)
          (arguments.map Located.value) span).outcome = .ok entity) :
    Accounts [⟨.declaration name className arguments, span⟩]
      (session.step registry policy ⟨.declaration name className arguments, span⟩).events
      session
      (session.append ⟨name.value, session.expandClass className.value, entity⟩) := by
  obtain ⟨params, connectors, log⟩ := exists_events_declare fresh built
  rw [events_step]
  dsimp only
  rw [log, events_checkName fresh]
  cases stored : session.names.get? name.value with
  | none =>
      have size := session.names.size_insert_of_get?_eq_none session.entities.length stored
      constructor <;>
        simp [Event.message, Located.announcement, Statement.kind, append, size]
  | some index =>
      have size := session.names.size_insert_of_get?_isSome session.entities.length
        (Option.isSome_of_eq_some stored)
      constructor <;>
        simp [Event.message, Located.announcement, Statement.kind, append, size]

/-- What a statement that succeeds logs adds up to what it changes. -/
theorem Succeeds.accounts
    {statement : Located (Statement α)}
    (succeeds : Succeeds registry policy session statement next) :
    Accounts [statement] (session.step registry policy statement).events session next := by
  cases succeeds with
  | abbreviation resolved =>
      exact accounts_abbreviation resolved
  | declaration fresh built =>
      exact accounts_declaration fresh built
  | absolute isFound =>
      rw [events_step]
      dsimp only
      rw [events_place_absolute isFound]
      exact accounts_motion (by simp [Statement.kind]) (.inl rfl) _
  | relative isFound isReference =>
      rw [events_step]
      dsimp only
      rw [events_place_relative isFound isReference]
      exact accounts_motion (by simp [Statement.kind]) (.inl rfl) _
  | connection isMoved isBase isMovedSocket isBaseSocket =>
      rw [events_step]
      dsimp only
      rw [events_connect isMoved isBase isMovedSocket isBaseSocket]
      exact accounts_motion (by simp [Statement.kind]) (.inr rfl) _

/-- The log of a run adds up, however many statements there are. -/
theorem accounts_run
    {statements : List (Located (Statement α))}
    (ran : (session.run registry policy statements).outcome = .ok next) :
    Accounts statements (session.run registry policy statements).events session next := by
  induction statements generalizing session with
  | nil =>
      cases ran
      exact accounts_nil _
  | cons statement rest inductionHypothesis =>
      obtain ⟨between, succeeds, ranRest⟩ := run_cons_eq_ok_iff.1 ran
      rw [run, Logged.events_bind_ok _ (step_eq_ok_iff.2 succeeds)]
      exact succeeds.accounts.append (inductionHypothesis ranRest)

/-- A run that stops has announced the statements up to the one that fails. -/
theorem saying_executing_run_of_fails
    {earlier later : List (Located (Statement α))}
    {statement : Located (Statement α)}
    {between : Session α}
    {error : LoadError}
    (ran : (session.run registry policy earlier).outcome = .ok between)
    (failed : (between.step registry policy statement).outcome = .error error) :
    Event.saying "Executing statement"
        (session.run registry policy (earlier ++ statement :: later)).events =
      (earlier ++ [statement]).map Located.announcement := by
  rw [events_run_append ran, run, Logged.events_bind_error _ failed, Event.saying_append,
    (accounts_run ran).announced, saying_executing_step, List.map_append, List.map_singleton]

end Steps

end Session

/-! ## Records -/

namespace Record

/-- The records with a message, in order. -/
def saying
    (message : String)
    (records : List Record) :
    List Record :=
  records.filter fun record => record.message = message

/-- How many records have a message. -/
def count
    (message : String)
    (records : List Record) :
    Nat :=
  (saying message records).length

/-- Every event is recorded where all severities are. -/
theorem ofEvents_trace
    (events : List (Event Float)) :
    ofEvents .trace events = events.map Event.record := by
  have all : (events.filter fun event => event.severity.isWithin .trace) = events := by
    rw [List.filter_eq_self]
    intro event _
    cases event <;> rfl
  rw [ofEvents, all]

theorem saying_ofEvents
    (message : String)
    (events : List (Event Float)) :
    saying message (ofEvents .trace events) =
      (Event.saying message events).map Event.record := by
  rw [ofEvents_trace, saying, List.filter_map]
  rfl

theorem count_ofEvents
    (message : String)
    (events : List (Event Float)) :
    count message (ofEvents .trace events) = Event.count message events := by
  rw [count, saying_ofEvents, List.length_map, Event.saying, Event.count,
    List.countP_eq_length_filter]

/-- The record that announces a statement. -/
def announcing
    (statement : Located (Statement Float)) :
    Record :=
  ⟨.trace, "Executing statement",
    [("kind", statement.value.kind.keyword), ("location", toString statement.offset)]⟩

/-- The announcements of statements as they are recorded. -/
theorem map_record_announcement
    (statements : List (Located (Statement Float))) :
    (statements.map Located.announcement).map Event.record = statements.map announcing := by
  rw [List.map_map]
  rfl

/-- The records of a run account for the level that its statements have built. -/
structure AccountForLevel
    (records : List Record)
    (statements : List (Located (Statement Float)))
    (level : Level Float) :
    Prop where
  /-- Every statement is announced, in order. -/
  announced :
    saying "Executing statement" records = statements.map announcing
  /-- The level is announced once, with its entities, its names and the short names. -/
  executed :
    saying "Level executed" records =
      [⟨.info, "Level executed",
        [("entities", toString level.size), ("names", toString level.bindings.size),
          ("aliases", toString (count "Alias defined" records))]⟩]
  constructors :
    count "Invoking constructor" records = level.size
  entities :
    count "Constructed entity" records = level.size
  /-- Entities whose names have been taken over have no name left. -/
  rebound :
    level.bindings.size +
        count "Entity name rebound; the earlier entity stays in the level" records =
      level.size
  /-- Every abbreviation defines a short name or redefines it. -/
  abbreviations :
    count "Alias defined" records + count "Alias redefined" records =
      statements.countP fun statement => statement.value.kind = .abbreviation

/-- The records of a run account for the statement at which it has stopped. -/
structure AccountForStop
    (records : List Record)
    (earlier : List (Located (Statement Float)))
    (failing : Located (Statement Float)) :
    Prop where
  /-- The statement that fails is the last one that is announced. -/
  announced :
    saying "Executing statement" records = (earlier ++ [failing]).map announcing
  /-- Nothing is said about the level. -/
  noLevel : ∀ message ∈ ["Level executed", "Level built", "Built level"],
    saying message records = []

end Record

namespace Loader

variable {loader : Loader} {statements : List (Located (Statement Float))}

/-- A level that is built adds three messages about itself to the log of its statements. -/
theorem events_runStatements_of_ok
    {session : Session Float}
    (ran :
      (Session.empty.run loader.registry loader.policy statements).outcome = .ok session) :
    (loader.runStatements statements).events =
      .runningLevel statements.length ::
        (Session.empty.run loader.registry loader.policy statements).events ++
          [.ranLevel session.entities.length session.names.size session.aliases.size,
            .builtLevel session.entities.length, .builtLevelDetails] := by
  unfold runStatements Level.ofStatements
  rw [Logged.events_bind_ok _ rfl, Logged.events_bind_ok _ ran]
  rfl

/-- A level that fails adds nothing to the log of its statements. -/
theorem events_runStatements_of_error
    {error : LoadError}
    (failed :
      (Session.empty.run loader.registry loader.policy statements).outcome = .error error) :
    (loader.runStatements statements).events =
      .runningLevel statements.length ::
        (Session.empty.run loader.registry loader.policy statements).events := by
  unfold runStatements Level.ofStatements
  rw [Logged.events_bind_ok _ rfl, Logged.events_bind_error _ failed]
  rfl

theorem accountForLevel
    {session : Session Float}
    (ran :
      (Session.empty.run loader.registry loader.policy statements).outcome = .ok session) :
    Record.AccountForLevel (Record.ofEvents .trace (loader.runStatements statements).events)
      statements session.toLevel := by
  obtain ⟨announced, constructors, entities, names, aliases, abbreviations⟩ :=
    Session.accounts_run ran
  have noneYet : Event.saying "Level executed"
      (Session.empty.run loader.registry loader.policy statements).events = [] :=
    Session.saying_level_run List.mem_cons_self _ _ _ _
  -- All tables are empty before the first statement.
  change _ = 0 + _ at entities
  change _ = 0 + _ at names
  change _ = 0 + _ at aliases
  rw [Nat.zero_add] at entities names aliases
  have size : session.toLevel.size = session.entities.length := rfl
  rw [events_runStatements_of_ok ran]
  constructor
  case announced =>
    rw [Record.saying_ofEvents, ← Record.map_record_announcement, ← announced]
    simp [Event.message]
  case executed =>
    simp [Record.saying_ofEvents, Record.count_ofEvents, Event.message, noneYet, ← aliases]
    rfl
  case constructors =>
    rw [size, entities, ← constructors]
    simp [Record.count_ofEvents, Event.message]
  case entities =>
    rw [size, entities]
    simp [Record.count_ofEvents, Event.message]
  case rebound =>
    rw [size, entities, ← names]
    simp [Record.count_ofEvents, Event.message]
    rfl
  case abbreviations =>
    rw [← abbreviations]
    simp [Record.count_ofEvents, Event.message]

theorem accountForStop
    {earlier later : List (Located (Statement Float))}
    {failing : Located (Statement Float)}
    {between : Session Float}
    {error : LoadError}
    (ran :
      (Session.empty.run loader.registry loader.policy earlier).outcome = .ok between)
    (failed : (between.step loader.registry loader.policy failing).outcome = .error error) :
    Record.AccountForStop
      (Record.ofEvents .trace (loader.runStatements (earlier ++ failing :: later)).events)
      earlier failing := by
  have runFailed := Session.run_eq_error_iff.2 ⟨earlier, failing, later, between, rfl, ran, failed⟩
  rw [events_runStatements_of_error runFailed]
  constructor
  case announced =>
    rw [Record.saying_ofEvents, Event.saying_cons, Session.saying_executing_run_of_fails ran failed]
    exact Record.map_record_announcement _
  case noLevel =>
    intro message isLevel
    rw [Record.saying_ofEvents, Event.saying_cons, Session.saying_level_run isLevel, if_neg]
    · rfl
    · rintro rfl
      simp [Event.message] at isLevel

/--
The log of a run accounts for the run. Each statement is announced with its kind and its place
until one fails, which is then the last one announced. A run that fails says nothing about the
level. One that succeeds tells how many entities, names and short names there are, and these
are as many as the records of the single statements add up to.
-/
theorem records_runStatements
    (loader : Loader)
    (statements : List (Located (Statement Float))) :
    let records := Record.ofEvents .trace (loader.runStatements statements).events
    match (loader.runStatements statements).outcome with
    | .ok level => Record.AccountForLevel records statements level
    | .error error =>
        ∃ earlier failing later between,
          statements = earlier ++ failing :: later ∧
            (Session.empty.run loader.registry loader.policy earlier).outcome = .ok between ∧
            (between.step loader.registry loader.policy failing).outcome = .error error ∧
            Record.AccountForStop records earlier failing := by
  dsimp only
  split
  case h_1 level succeeded =>
    obtain ⟨session, ran, rfl⟩ := Level.ofStatements_eq_ok_iff.1 succeeded
    exact accountForLevel ran
  case h_2 error failed =>
    obtain ⟨earlier, failing, later, between, isSplit, ran, stepFailed⟩ :=
      Session.run_eq_error_iff.1 (Level.ofStatements_eq_error_iff.1 failed)
    refine ⟨earlier, failing, later, between, isSplit, ran, stepFailed, ?_⟩
    subst isSplit
    exact accountForStop ran stepFailed

end Loader

end LevelScript
