import LateBound.Engine

/-!
# What can be seen of an engine

Whoever uses an engine performs operations on it, one after the other, and of each sees the answer, the
diagnostics that were reported meanwhile and what has happened to the host. What the engine remembers, and
how often it had to search, is not part of it.
-/

namespace LateBound

inductive Operation
  | evaluate (context : Context) (text : String)
  | expandTemplate (context : Context) (text : String)
  | callMethod (target : Value) (name : String) (args : List Value)
  | construct (typeName : String) (args : List Value)
  | getField (target : Value) (name : String)
  | setField (target : Value) (name : String) (value : Value)
  | addImport (unit : Option String) (name : String) (label? : Option String)
  | removeUnit (unit : Option String)
  | clearAll

inductive Answer
  | value (value : Value)
  | text (text : String)
  | outcome (outcome : Except Failure Value)
  | written (outcome : Except Failure Unit)
  | imported (outcome : Except Failure HostType)
  | removed (had : Bool)
  | cleared

/-- What is seen of one operation: the answer, the diagnostics that were reported meanwhile, in order and
with what each is about, the store of the host behind it, and all runs of members so far, latest first. -/
structure Observation where
  answer : Answer
  reports : List Report
  store : Store
  runs : List HostRun

namespace Engine

variable {μ : Type} [Memory μ]

def perform : Operation → Action μ Answer
  | .evaluate context text => .value <$> evaluate context text
  | .expandTemplate context text => .text <$> expandTemplate context text
  | .callMethod target name args => .outcome <$> callMethod target name args
  | .construct typeName args => .outcome <$> constructType typeName args
  | .getField target name => .outcome <$> getField target name
  | .setField target name value => .written <$> setField target name value
  | .addImport unit name label? => .imported <$> addImport unit name label?
  | .removeUnit unit => .removed <$> removeUnit unit
  | .clearAll => (fun _ => .cleared) <$> clearAll

def observe (operation : Operation) : Action μ Observation := do
  let answer ← perform operation
  let reports ← drainReports
  let machine := (← get).machine
  return ⟨answer, reports, machine.store, machine.runs⟩

/-- What is seen of operations that are performed one after the other. -/
def observeAll (engine : Engine μ) (operations : List Operation) : List Observation :=
  ((operations.mapM observe).run engine).1

end Engine

end LateBound
