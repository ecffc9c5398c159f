/-
# Rollout.Plan — the order in which artifacts are deployed

Tasks are numbered from zero, and each needs some others to come before it.  A `Queue` holds the
tasks placed so far, the number of unplaced tasks that each task still waits for, and the tasks
that wait for none.  Every step places the lowest ready task, so tasks keep their own order
wherever their needs allow it.  When no task is ready the rest cannot be placed: each of them
waits for another.

A plan holds every artifact once, each behind all it depends on.  `Plan.build` refuses, in this
order, a name that is declared twice, a dependency that is not declared or a linked artifact that
is no library, and a cycle.

`Loop` is the same order round by round.  Two tables are filled before anything is placed,
dependency by dependency: how many needs each artifact has, and which artifacts need it.  A round
takes the first ready artifact, puts it at the end of the order, and takes one need off each
artifact in its row of the second table.  A table has no entry at a place that it does not cover,
and from zero nothing can be taken off; no round asks for either.
-/
import Rollout.Artifact

set_option autoImplicit false

namespace Rollout

/-! ## Tasks -/

namespace Plan

/-- For each task the tasks it needs, without repetition. -/
structure Graph where
  needs : List (List Nat)

namespace Graph

def size (g : Graph) : Nat := g.needs.length

def needsOf (g : Graph) (task : Nat) : List Nat := g.needs.getD task []

/-- The tasks that need a task, in increasing order. -/
def dependents (g : Graph) (task : Nat) : List Nat :=
  (List.range g.size).filter fun other => (g.needsOf other).contains task

end Graph

/-- How far the tasks have been placed. -/
structure Queue where
  /-- The tasks placed so far, first to last. -/
  order : List Nat
  /-- For each task the number of tasks it needs that have not been placed. -/
  waiting : List Nat
  /-- The tasks that can be placed now, in increasing order. -/
  ready : List Nat
  deriving DecidableEq, Repr

namespace Queue

def insertTask (task : Nat) : List Nat → List Nat
  | [] => [task]
  | first :: rest =>
      if task < first then task :: first :: rest
      else if task = first then first :: rest
      else first :: insertTask task rest

/-- What a task still waits for. -/
def waitingFor (q : Queue) (task : Nat) : Nat := q.waiting.getD task 0

def start (g : Graph) : Queue where
  order := []
  waiting := g.needs.map List.length
  ready := (List.range g.size).filter fun task => (g.needsOf task).isEmpty

/-- Takes one need off a task, which becomes ready with its last. -/
def release (q : Queue) (task : Nat) : Queue :=
  let left := q.waitingFor task - 1
  { q with
    waiting := q.waiting.set task left
    ready := if left = 0 then insertTask task q.ready else q.ready }

/-- Places a ready task and releases those that need it. -/
def place (g : Graph) (q : Queue) (task : Nat) (ready : List Nat) : Queue :=
  (g.dependents task).foldl release { q with order := q.order ++ [task], ready := ready }

def step? (g : Graph) (q : Queue) : Option Queue :=
  match q.ready with
  | [] => none
  | task :: ready => some (place g q task ready)

/-- Places tasks until none is ready, at most so many. -/
def run (g : Graph) : (most : Nat) → Queue → Queue
  | 0, q => q
  | most + 1, q =>
      match q.step? g with
      | none => q
      | some next => run g most next

def blocked (q : Queue) : List Nat :=
  (List.range q.waiting.length).filter fun task => 0 < q.waitingFor task

end Queue

/-- The tasks in order, or those that can never be placed. -/
def Graph.order (g : Graph) : Except (List Nat) (List Nat) :=
  let q := Queue.run g g.size (Queue.start g)
  if q.order.length = g.size then .ok q.order else .error q.blocked

end Plan

/-! ## Plans -/

structure Plan.Step where
  /-- The place; the first step has the number zero. -/
  index : Nat
  artifact : Artifact
  deriving DecidableEq

/-- Artifacts in the order of their deployment. -/
structure Plan where
  steps : List Plan.Step
  deriving DecidableEq

namespace Plan

def artifacts (p : Plan) : List Artifact := p.steps.map (·.artifact)

def names (p : Plan) : List String := p.artifacts.map (·.name)

def size (p : Plan) : Nat := p.steps.length

/-- The plan that deploys artifacts in the order in which they are given. -/
def ofArtifacts (artifacts : List Artifact) : Plan := ⟨artifacts.mapIdx Step.mk⟩

inductive Fault where
  | duplicate (name : String)
  | unknownDependency (artifact dependency : String)
  | notALibrary (artifact library : String)
  | cyclic (names : List String)
  deriving DecidableEq, Repr

def Fault.message : Fault → String
  | .duplicate name => s!"Artifact '{name}' is declared more than once"
  | .unknownDependency artifact dependency =>
      s!"Artifact '{artifact}' depends on undeclared artifact '{dependency}'"
  | .notALibrary artifact library =>
      s!"Artifact '{artifact}' links '{library}', which is not a library"
  | .cyclic names => "Cyclic dependency among: " ++ ", ".intercalate names

/-! ## Checks -/

/-- The first name that occurs again, behind the names `seen`. -/
def firstRepeated? (seen : List String) : List String → Option String
  | [] => none
  | name :: rest =>
      if seen.contains name then some name else firstRepeated? (name :: seen) rest

def find? (artifacts : List Artifact) (name : String) : Option Artifact :=
  artifacts.find? (·.name = name)

def checkLibrary (artifacts : List Artifact) (a : Artifact) (library : String) :
    Except Fault Unit :=
  match find? artifacts library with
  | none => .error (.unknownDependency a.name library)
  | some target => if target.isLibrary then .ok () else .error (.notALibrary a.name library)

def checkReference (artifacts : List Artifact) (a : Artifact) (name : String) :
    Except Fault Unit :=
  match find? artifacts name with
  | none => .error (.unknownDependency a.name name)
  | some _ => .ok ()

/-- The libraries of an artifact are checked first, then its references. -/
def checkArtifact (artifacts : List Artifact) (a : Artifact) : Except Fault Unit := do
  a.libraries.forM (checkLibrary artifacts a)
  a.references.forM (checkReference artifacts a)

def check (artifacts : List Artifact) : Except Fault Unit := do
  match firstRepeated? [] (artifacts.map (·.name)) with
  | some name => throw (.duplicate name)
  | none => artifacts.forM (checkArtifact artifacts)

/-! ## Building -/

def place? (artifacts : List Artifact) (name : String) : Option Nat :=
  artifacts.findIdx? (·.name = name)

/-- For each artifact the places of those it depends on. -/
def graph (artifacts : List Artifact) : Graph :=
  ⟨artifacts.map fun a => a.dependencies.filterMap (place? artifacts)⟩

def pick (artifacts : List Artifact) (places : List Nat) : List Artifact :=
  places.filterMap fun place => artifacts[place]?

/-- The plan of some artifacts: each behind all it depends on, and otherwise in the
order of declaration. -/
def build (artifacts : List Artifact) : Except Fault Plan := do
  check artifacts
  match (graph artifacts).order with
  | .ok order => return ofArtifacts (pick artifacts order)
  | .error blocked => throw (.cyclic ((pick artifacts blocked).map (·.name)))

/-! ## Tables -/

/-- For each place the number of its needs, and the places that need it. -/
structure Tables where
  degrees : List Nat
  dependents : List (List Nat)

namespace Tables

def blank (size : Nat) : Tables := ⟨List.replicate size 0, List.replicate size []⟩

/-- Notes that a place needs another, if there are both. -/
def note? (place : Nat) (t : Tables) (need : Nat) : Option Tables := do
  let row ← t.dependents[need]?
  let degree ← t.degrees[place]?
  return ⟨t.degrees.set place (degree + 1), t.dependents.set need (row ++ [place])⟩

def noteAll? (artifacts : List Artifact) (t : Tables) (entry : Artifact × Nat) : Option Tables :=
  entry.1.dependencies.foldlM (fun t name => do t.note? entry.2 (← place? artifacts name)) t

def ofArtifacts? (artifacts : List Artifact) : Option Tables :=
  artifacts.zipIdx.foldlM (noteAll? artifacts) (blank artifacts.length)

end Tables

/-! ## Rounds -/

structure Loop extends Queue where
  /-- The places that became ready, first to last, also those that have been taken since. -/
  entered : List Nat

namespace Loop

def start (t : Tables) : Loop :=
  let ready := (List.range t.degrees.length).filter fun place => t.degrees[place]? = some 0
  { order := [], waiting := t.degrees, ready := ready, entered := ready }

/-- Takes one need off a place, which becomes ready with its last. -/
def release? (l : Loop) (place : Nat) : Option Loop :=
  match l.waiting[place]? with
  | none => none
  | some 0 => none
  | some (left + 1) =>
      let waiting := l.waiting.set place left
      if left = 0 then
        some { l with
          waiting := waiting
          ready := Queue.insertTask place l.ready
          entered := l.entered ++ [place] }
      else some { l with waiting := waiting }

/-- Takes the first of the ready places and releases those that need it. -/
def take? (t : Tables) (l : Loop) (place : Nat) (ready : List Nat) : Option Loop := do
  let row ← t.dependents[place]?
  row.foldlM release? { l with order := l.order ++ [place], ready := ready }

inductive Round where
  /-- No place is ready. -/
  | ended
  | onward (next : Loop)
  /-- An entry was asked for that is not there, or a need taken off from zero. -/
  | broken

def round (t : Tables) (l : Loop) : Round :=
  match l.ready with
  | [] => .ended
  | place :: ready =>
      match l.take? t place ready with
      | some next => .onward next
      | none => .broken

inductive After (t : Tables) : Nat → Loop → Prop
  | start : After t 0 (Loop.start t)
  | onward {rounds : Nat} {l next : Loop} (before : After t rounds l)
      (round : l.round t = .onward next) : After t (rounds + 1) next

end Loop

end Plan

end Rollout
