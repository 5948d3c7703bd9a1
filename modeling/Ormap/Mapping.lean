import Ormap.Once
import Ormap.Resolution
/-!
# Mapping — the entities of a sealed registry, resolved side by side

Each entity is resolved by a task of its own.  A task that comes to its end gives its entity what came of it, and is
then counted off if that is good.  A driver waits for the tasks.  The first failure that it meets ends the mapping: it
stops the tasks that still run, gives the failure to every entity that has no outcome, and answers with it.  A task that
has got past its last wait cannot be stopped any more: it is overtaken, finds that its entity has an outcome, and is
counted off all the same.
-/
namespace Ormap

/-- How far the task of an entity is. -/
inductive Stage where
  | running
  /-- It succeeded, and has not been counted off. -/
  | succeeded
  | counted
  | failed (fault : ConfigurationError)
  | stopped
deriving DecidableEq, Repr

/-- An entity with the task that resolves it. -/
structure Task where
  entity : Entity
  stage : Stage := .running
deriving Repr

/-- What the driver of the tasks is at. -/
inductive Driver where
  /-- It waits for a task to end. -/
  | waiting
  /-- It gives a failure to the entities, and the one at a position is the next. -/
  | failing (fault : ConfigurationError) (next : Nat)
  | done
deriving DecidableEq, Repr

/-- The entities of a sealed registry with their tasks, and what came of all of them. -/
structure Mapping where
  tasks : List Task
  driver : Driver := .waiting
  outcome : Once (Except ConfigurationError Unit) := {}
deriving Repr

namespace Mapping

/-- A step of a task, by its position, or of the driver. -/
inductive Step where
  /-- A task ends, and its entity has the outcome unless it has one. -/
  | settle (n : Nat)
  /-- A task that succeeded is counted off. -/
  | count (n : Nat)
  /-- A task is stopped after a failure. -/
  | stop (n : Nat)
  /-- The driver meets a task that failed. -/
  | fail (n : Nat)
  /-- The driver gives its failure to one entity more. -/
  | spread
  /-- The driver answers: all tasks are counted off, or all entities have the failure. -/
  | answer
deriving DecidableEq, Repr

/-- Whether a step counts an entity off. -/
def Step.counts : Step → Bool
  | count _ => true
  | _ => false

/-- All tasks at their beginning. -/
def begun (cfg : Config) (c : Catalog) : Mapping where
  tasks := c.entities.map fun d => { entity := Resolution.entityBegun cfg c d }

/-- How a task stands that has come to its end, and is counted off if it succeeded. -/
def ended (result : Except ConfigurationError Unit) : Stage :=
  match result with
  | .ok _ => .counted
  | .error fault => .failed fault

/-- All tasks at their end, before the driver looked at any. -/
def complete (cfg : Config) (c : Catalog) : Mapping where
  tasks := c.entities.map fun d => { entity := Resolution.entity cfg c d, stage := ended (Resolution.resolve cfg c d) }
  driver := .done
  outcome := ⟨some (Resolution.outcome cfg c)⟩

/-- The task at a position, if it is at a stage. -/
def at? (m : Mapping) (n : Nat) (stage : Stage) : Option Task := (m.tasks[n]?).filter (·.stage == stage)

/-- A task that ends with a result. -/
def settled (t : Task) (result : Except ConfigurationError Unit) : Task where
  entity := t.entity.settle result
  stage := match result with
    | .ok _ => .succeeded
    | .error fault => .failed fault

/-- The driver, once it has met a task. -/
def met (t : Task) : Option Driver :=
  match t.stage with
  | .failed fault => some (.failing fault 0)
  | _ => none

/-- What a step makes of a mapping, if it is possible. -/
def step? (cfg : Config) (c : Catalog) (m : Mapping) : Step → Option Mapping
  | .settle n => (m.at? n .running).map fun t =>
    { m with tasks := m.tasks.set n (settled t (Resolution.resolve cfg c t.entity.descriptor)) }
  | .count n => (m.at? n .succeeded).map fun t => { m with tasks := m.tasks.set n { t with stage := .counted } }
  | .stop n =>
    if m.driver = .waiting then none
    else (m.at? n .running).map fun t => { m with tasks := m.tasks.set n { t with stage := .stopped } }
  | .fail n =>
    if m.driver = .waiting then ((m.tasks[n]?).bind met).map fun driver => { m with driver } else none
  | .spread => match m.driver with
    | .failing fault next => (m.tasks[next]?).map fun t => { m with
        tasks := m.tasks.set next { t with entity := t.entity.settle (.error fault) }
        driver := .failing fault (next + 1) }
    | _ => none
  | .answer => match m.driver with
    | .waiting =>
      if m.tasks.all (·.stage == .counted) then some { m with driver := .done, outcome := m.outcome.fill (.ok ()) }
      else none
    | .failing fault next =>
      if next = m.tasks.length then some { m with driver := .done, outcome := m.outcome.fill (.error fault) } else none
    | .done => none

end Mapping
end Ormap
