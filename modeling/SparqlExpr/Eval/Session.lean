import SparqlExpr.Eval.Evaluator

/-! Sessions: evaluators that may share random sources, compiled expressions under names, and one
row. -/
namespace SparqlExpr

/-- A random source given as it is, or by the name that it has in a session. -/
inductive SourceRef where
  | made (source : Source)
  | named (name : String)

/-- What an evaluator is made from. -/
structure Settings where
  config : Config := {}
  registry : Option Registry := none
  random : Option SourceRef := none

/-- A compiled expression and the place of the source that it draws from. -/
structure Program where
  compiled : Compiled Source
  source : Nat

structure Session where
  /-- Random sources by place; evaluators with the same place share one. -/
  sources : Array Source
  sourceNames : List (String × Nat)
  evaluators : List (String × Evaluator × Nat)
  programs : List (String × Program)
  row : Row
  /-- What the seeds of sources are taken from for which none is given. -/
  entropy : UInt64

inductive Step where
  | addSource (name : String) (source : Source)
  | drawDouble (name : String)
  | drawUuid (name : String)
  | create (id : String) (settings : Settings)
  | duplicate (id copy : String)
  | describe (id : String)
  | compile (id slot : String) (expr : Option Expr)
  | copy (slot target : String)
  | eval (slot : String)
  | test (slot : String)
  /-- Evaluates on given rows instead of the row of the session. -/
  | evalRows (slot : String) (rows : List Row)
  | testRows (slot : String) (rows : List Row)
  | once (id : String) (expr : Expr)
  /-- Evaluates and binds the result to a variable. -/
  | assign (slot name : String)
  | bind (name : String) (term : Term)
  | unbind (name : String)
  | showRow

inductive Answer where
  | done
  /-- A name that nothing stands under. -/
  | missing
  | double (x : Double)
  | uuid (u : Uuid)
  | evaluator (e : Evaluator)
  | compiled (p : Compiled Source)
  | refused (error : FilterError)
  | result (outcome : Except FilterError (Option Term))
  | truth (outcome : Except FilterError Bool)
  | results (outcomes : List (Except FilterError (Option Term)))
  | truths (outcomes : List (Except FilterError Bool))
  | binding (term : Option Term)
  | row (row : Row)

namespace Session

/-- The evaluator without a name has the standard registry. -/
def start (entropy : UInt64) : Session where
  sources := #[.ofSeed entropy]
  sourceNames := []
  evaluators := [("", .standard, 0)]
  programs := []
  row := .empty
  entropy := entropy

/-- Puts an entry before all others, which then no longer count under that name. -/
def put (name : String) (value : α) (entries : List (String × α)) : List (String × α) :=
  (name, value) :: entries.filter fun entry => entry.1 != name

/-- Adds a source and gives its place. -/
def addSource (s : Session) (source : Source) : Nat × Session :=
  (s.sources.size, { s with sources := s.sources.push source })

/-- Runs a computation on the source at a place. -/
def drawing (s : Session) (place : Nat) (x : StateM Source α) : α × Session :=
  let (a, source) := x.run (s.sources.getD place (.ofSeed s.entropy))
  (a, { s with sources := s.sources.setIfInBounds place source })

/-- A seed that no source without a seed of its own has yet. -/
def freshSeed (s : Session) : UInt64 :=
  s.entropy + .ofNat s.sources.size

/-- The place of a source that an evaluator is to draw from. With a registry of its own it draws
from its seed. -/
def placeFor? (s : Session) (settings : Settings) : Option (Nat × Session) :=
  let seeded := some (s.addSource (.ofSeed (settings.config.seed.getD s.freshSeed)))
  match settings.registry, settings.random with
  | some _, _ => seeded
  | none, none => seeded
  | none, some (.made source) => some (s.addSource source)
  | none, some (.named name) => (s.sourceNames.lookup name).map fun place => (place, s)

/-- Runs a compiled expression. -/
def running (s : Session) (slot : String) (answer : α → Answer)
    (x : Compiled Source → StateM Source α) : Answer × Session :=
  match s.programs.lookup slot with
  | none => (.missing, s)
  | some program =>
    let (a, s) := s.drawing program.source (x program.compiled)
    (answer a, s)

/-- Draws from a source by name. -/
def drawNamed (s : Session) (name : String) (answer : α → Answer) (x : StateM Source α) :
    Answer × Session :=
  match s.sourceNames.lookup name with
  | none => (.missing, s)
  | some place =>
    let (a, s) := s.drawing place x
    (answer a, s)

/-- Takes one step. A step that fails leaves the session as it was, draws apart. -/
def step (s : Session) : Step → Answer × Session
  | .addSource name source =>
    let (place, s) := s.addSource source
    (.done, { s with sourceNames := put name place s.sourceNames })
  | .drawDouble name => s.drawNamed name .double (modifyGet RandomSource.nextDouble)
  | .drawUuid name => s.drawNamed name .uuid (modifyGet RandomSource.nextUuid)
  | .create id settings =>
    match s.placeFor? settings with
    | none => (.missing, s)
    | some (place, s) =>
      let evaluator := ⟨settings.config, settings.registry.getD .standard⟩
      (.done, { s with evaluators := put id (evaluator, place) s.evaluators })
  | .duplicate id copy =>
    match s.evaluators.lookup id with
    | none => (.missing, s)
    | some entry => (.done, { s with evaluators := put copy entry s.evaluators })
  | .describe id =>
    match s.evaluators.lookup id with
    | none => (.missing, s)
    | some (evaluator, _) => (.evaluator evaluator, s)
  | .compile id slot expr =>
    match s.evaluators.lookup id with
    | none => (.missing, s)
    | some (evaluator, place) =>
      match evaluator.compiler.compile? expr with
      | .error error => (.refused error, s)
      | .ok compiled =>
        (.compiled compiled, { s with programs := put slot ⟨compiled, place⟩ s.programs })
  | .copy slot target =>
    match s.programs.lookup slot with
    | none => (.missing, s)
    | some program => (.done, { s with programs := put target program s.programs })
  | .eval slot => s.running slot .result fun p => (p.eval s.row).run
  | .test slot => s.running slot .truth fun p => (p.test s.row).run
  | .evalRows slot rows => s.running slot .results fun p => p.evalAll rows
  | .testRows slot rows =>
    s.running slot .truths fun p => rows.mapM fun row => (p.test row).run
  | .once id expr =>
    match s.evaluators.lookup id with
    | none => (.missing, s)
    | some (evaluator, place) =>
      let (outcome, s) := s.drawing place (evaluator.evalOnce expr s.row).run
      (.result (outcome.map some), s)
  | .assign slot name =>
    match s.running slot .result fun p => (p.eval s.row).run with
    | (.result (.ok (some t)), s) => (.result (.ok (some t)), { s with row := s.row.set name t })
    | other => other
  | .bind name term => (.binding (s.row.get? name), { s with row := s.row.set name term })
  | .unbind name => (.binding (s.row.get? name), { s with row := s.row.erase name })
  | .showRow => (.row s.row, s)

end Session

end SparqlExpr
