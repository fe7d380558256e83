import Reckoner.Host.Scripted

/-!
# Reckoner — sessions

A session keeps an environment and changes or questions it step by step. It also
keeps environments under names: since an environment never changes, keeping one is
keeping a copy. The functions that a session binds are those of a host described by
data.
-/

namespace Reckoner

/-- What a session holds. -/
structure Session where
  env : Environment := .empty
  saved : List (String × Environment) := []
  script : Script := {}
deriving Inhabited

namespace Session

/-- One step of a session. -/
inductive Step where
  /-- Start over with nothing bound. -/
  | new
  /-- Start over with the functions of the library. -/
  | prelude
  /-- Bind the functions of the library in the innermost layer. -/
  | install
  /-- Go on in a new layer inside. -/
  | push
  | save (name : String)
  /-- Go on with an environment saved, or with nothing bound. -/
  | load (name : String)
  | define (name : String) (value : Description)
  | defineFunction (name : String) (behavior : Behavior Description)
  | extend (pairs : List (String × Description))
  /-- Start over with one layer of bindings. -/
  | collect (pairs : List (String × Description))
  | find (name : String)
  | get (name : String)
  | contains (name : String)
  | names
  | evaluate (source : String)
  /-- Read an expression once and evaluate it several times. -/
  | evaluateTree (source : String) (times : Nat)

/-- What a step answers. -/
inductive Answer where
  | done
  | found (value : Option Value)
  | value (value : Value)
  | contains (answer : Bool)
  | names (names : List String)
  | outcome (outcome : Except Failure Value)
  | outcomes (outcomes : List (Except Failure Value))

/-- What an evaluation by the session's host came to. -/
structure Evaluated where
  outcome : Except Failure Value
  events : List Event
  /-- The session with the host's state after the evaluation. -/
  session : Session

/-- An evaluation by the session's host; the state of the host goes on. -/
def perform (s : Session) (e : Evaluation Script Value) : Evaluated :=
  match e ⟨s.script, #[]⟩ with
  | .ok value run => ⟨.ok value, run.events.toList, { s with script := run.host }⟩
  | .error failure run => ⟨.error failure, run.events.toList, { s with script := run.host }⟩

/-- The evaluation of a text in the session's environment. -/
def evaluate (s : Session) (source : String) : Evaluated :=
  s.perform (evaluateSource s.env Script.host source)

/-- Several evaluations of one expression. -/
private def repeated (e : Expr) : Nat → Session → List (Except Failure Value) × Session
  | 0, s => ([], s)
  | times + 1, s =>
    let first := s.perform (e.evaluate s.env Script.host)
    let (outcomes, s) := repeated e times first.session
    (first.outcome :: outcomes, s)

/-- What a step answers, and the session after it. -/
def step (s : Session) : Step → Answer × Session
  | .new => (.done, { s with env := .empty })
  | .prelude =>
    let (env, script) := s.script.install .empty
    (.done, { s with env, script })
  | .install =>
    let (env, script) := s.script.install s.env
    (.done, { s with env, script })
  | .push => (.done, { s with env := s.env.inside })
  | .save name => (.done, { s with saved := (name, s.env) :: s.saved })
  | .load name => (.done, { s with env := (s.saved.lookup name).getD .empty })
  | .define name description =>
    let (value, script) := description.make s.env s.script
    (.done, { s with env := s.env.define name value, script })
  | .defineFunction name behavior =>
    let (value, script) := (Description.function name none behavior).make s.env s.script
    (.done, { s with env := s.env.define name value, script })
  | .extend pairs =>
    let (values, script) := Description.makePairs s.env pairs s.script
    (.done, { s with env := s.env.extend values, script })
  | .collect pairs =>
    let (values, script) := Description.makePairs s.env pairs s.script
    (.done, { s with env := .ofList values, script })
  | .find name => (.found (s.env.find? name), s)
  | .get name => (.value (s.env.get name), s)
  | .contains name => (.contains (s.env.contains name), s)
  | .names => (.names s.env.names, s)
  | .evaluate source =>
    let evaluated := s.evaluate source
    (.outcome evaluated.outcome, evaluated.session)
  | .evaluateTree source times =>
    match Expr.ofSource source with
    | .error d => (.outcome (.error (.diagnostic d)), s)
    | .ok e =>
      let (outcomes, s) := repeated e times s
      (.outcomes outcomes, s)

/-- What a step answers, the calls the host answered in it, and the environment after
it. -/
structure Report where
  answer : Answer
  calls : List Application
  size : Nat
  isEmpty : Bool

/-- The reports of steps taken one after the other. -/
def run (s : Session) : List Step → List Report
  | [] => []
  | step :: rest =>
    let (answer, after) := { s with script.calls := #[] }.step step
    ⟨answer, after.script.calls.toList, after.env.size, after.env.isEmpty⟩ :: run after rest

end Session

end Reckoner
