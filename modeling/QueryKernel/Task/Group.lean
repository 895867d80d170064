import QueryKernel.Error

/-!
Contract: groups of tasks that are spawned one by one and joined together.

A task either returns a value or raises a message. Joining waits for every
task; it returns the values in spawn order, or raises one of the messages. The
backends differ in where tasks run, and so in which message is raised: the first
in spawn order, or, on a shared arena, the one whose completion was reported
first.

Owns: task outcomes, backends, groups, and joining under a given order of
completion.
-/

namespace QueryKernel.Task

/-- Where the tasks of a group run: on a thread each, on a shared arena, or on
the joining thread. -/
inductive Backend where
  | futures
  | workStealing
  | inline
deriving DecidableEq, Repr

def Backend.render : Backend → String
  | .futures => "futures"
  | .workStealing => "work_stealing"
  | .inline => "inline"

def Backend.inspect : Backend → String
  | .futures => "Futures"
  | .workStealing => "WorkStealing"
  | .inline => "Inline"

/-- What running a task comes to. -/
inductive Outcome (α : Type) where
  | value (result : α)
  | raised (message : String)
deriving DecidableEq, Repr

def Outcome.value? {α : Type} : Outcome α → Option α
  | .value result => some result
  | .raised _ => none

def Outcome.raised? {α : Type} : Outcome α → Option String
  | .value _ => none
  | .raised message => some message

/-- What joining a group comes to. -/
inductive Joined (α : Type) where
  | values (results : List α)
  | raised (message : String)
  | failed (failure : Error)
deriving Repr

structure Group (α : Type) where
  backend : Backend
  tasks : List (Outcome α) := []
deriving Repr

namespace Group

variable {α : Type}

def spawn (group : Group α) (task : Outcome α) : Group α :=
  { group with tasks := group.tasks ++ [task] }

def size (group : Group α) : Nat := group.tasks.length

def isEmpty (group : Group α) : Bool := group.tasks.isEmpty

/-- Number of tasks that returned a value. Every task has run when the group is
joined. -/
def finished (group : Group α) : Nat := (group.tasks.filterMap Outcome.value?).length

/-- Join in spawn order: all values, or the first message raised. -/
def joinInOrder (group : Group α) : Joined α :=
  match group.tasks.filterMap Outcome.raised? with
  | message :: _ => .raised message
  | [] => .values (group.tasks.filterMap Outcome.value?)

/-- The result slots of a shared arena, and the first reported message. -/
structure Slots (α : Type) where
  results : List (Option α)
  firstRaised : Option String := none

/-- Record the completion of one task. -/
def Slots.report (slots : Slots α) (place : Nat) : Outcome α → Slots α
  | .value result => { slots with results := slots.results.set place (some result) }
  | .raised message => { slots with firstRaised := slots.firstRaised.or (some message) }

/-- Receive completions, one for each task still awaited. -/
def receive (tasks : List (Outcome α)) : Nat → List Nat → Slots α → Except Error (Slots α)
  | 0, _, slots => .ok slots
  | _ + 1, [], _ => .error (.dispatch .droppedTask)
  | awaited + 1, place :: rest, slots =>
      match tasks[place]? with
      | some outcome => receive tasks awaited rest (slots.report place outcome)
      | none => .error (.dispatch .droppedTask)

/-- The values of the slots from a place on, all of which must be filled. -/
def collect (place : Nat) : List (Option α) → Except Error (List α)
  | [] => .ok []
  | some result :: rest => (collect (place + 1) rest).map (result :: ·)
  | none :: _ => .error (.dispatch (.taskWithoutResult place))

/-- Join on a shared arena, given the order in which it finished the tasks. -/
def joinArena (group : Group α) (completions : List Nat) : Joined α :=
  match receive group.tasks group.size completions ⟨List.replicate group.size none, none⟩ with
  | .error failure => .failed failure
  | .ok slots =>
      match slots.firstRaised with
      | some message => .raised message
      | none =>
          match collect 0 slots.results with
          | .ok results => .values results
          | .error failure => .failed failure

/-- Join a group. The order of completion matters on a shared arena only. -/
def join (group : Group α) (completions : List Nat) : Joined α :=
  match group.backend with
  | .futures | .inline => group.joinInOrder
  | .workStealing => group.joinArena completions

/-- The order in which an arena finishes tasks that never overtake each
other. -/
def spawnOrder (group : Group α) : List Nat := List.range group.size

end Group

end QueryKernel.Task
