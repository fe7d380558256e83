import Reckoner.Event
import Reckoner.Log.Filter

/-!
# Reckoner — what a program run leaves behind

The two streams that a run writes, and pieces of them. A piece of a run is a failure
or an answer with the log records that precede it.
-/

namespace Reckoner.CommandLine

/-- What was written, in order, on each of the two streams. -/
@[ext]
structure Output where
  stdout : String := ""
  stderr : String := ""
deriving Repr, DecidableEq, Inhabited

namespace Output

/-- One piece of output behind another. -/
def append (a b : Output) : Output := ⟨a.stdout ++ b.stdout, a.stderr ++ b.stderr⟩

instance : Append Output := ⟨append⟩

@[simp] theorem empty_append (a : Output) : {} ++ a = a := by
  ext1 <;> exact String.empty_append

@[simp] theorem append_empty (a : Output) : a ++ {} = a := by
  ext1 <;> exact String.append_empty

theorem append_assoc (a b c : Output) : a ++ b ++ c = a ++ (b ++ c) := by
  ext1 <;> exact String.append_assoc

/-- A line on the standard output. -/
def line (text : String) : Output := { stdout := text ++ "\n" }

/-- A line on the error stream. -/
def errorLine (text : String) : Output := { stderr := text ++ "\n" }

/-- The lines of the records that a filter admits. -/
def logged (filter : Log.Filter) (records : List Log.Record) : Output :=
  { stderr := String.join ((filter.lines records).map (· ++ "\n")) }

/-- Nothing is logged of records that a filter does not admit. -/
theorem logged_eq_empty {filter : Log.Filter} {records : List Log.Record}
    (h : ∀ r ∈ records, filter.admits r = false) : logged filter records = {} := by
  have hnone : records.filter filter.admits = [] :=
    List.filter_eq_nil_iff.2 fun r hr => by rw [h r hr]; exact Bool.false_ne_true
  rw [logged, Log.Filter.lines, hnone]
  rfl

/-- An evaluation: what is logged of it, then its value or its failure. -/
def ofOutcome (filter : Log.Filter) (outcome : Except Failure Value) (events : List Event) :
    Output :=
  logged filter (events.map Event.record) ++
    match outcome with
    | .ok value => line value.text
    | .error failure => errorLine failure.text

end Output

/-- What a run of the program leaves behind. -/
structure Result where
  output : Output
  /-- Zero if the run succeeded. -/
  exit : UInt8
deriving Repr, DecidableEq, Inhabited

end Reckoner.CommandLine
