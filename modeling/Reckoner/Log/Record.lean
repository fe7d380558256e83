/-!
# Reckoner — log records

What a log is made of. A **record** has a severity, a target that names the part of
the program it comes from, a message and further fields. Its line shows them in that
order; control characters in a message are shown by their codes, so that a message
cannot steer a terminal.
-/

namespace Reckoner.Log

/-- How urgent a record is. -/
inductive Severity where
  | trace
  | debug
  | info
  | warn
  | error
deriving Repr, DecidableEq, Inhabited

/-- How a severity is named. -/
def Severity.label : Severity → String
  | .trace => "TRACE"
  | .debug => "DEBUG"
  | .info => "INFO"
  | .warn => "WARN"
  | .error => "ERROR"

/-- One entry of a log. -/
structure Record where
  severity : Severity
  /-- The part of the program that the record comes from. -/
  target : String
  message : String
  fields : List (String × String) := []
  /-- Names of further fields, which its line does not show. -/
  unshown : List String := []
deriving Repr, DecidableEq, Inhabited

/-- Characters that may steer a terminal: bell, backspace, form feed, escape, delete
and the second set of controls. -/
private def steers (c : Char) : Bool :=
  c = '\x07' || c = '\x08' || c = '\x0c' || c = '\x1b' || ('\x7f' ≤ c && c ≤ '\u009f')

/-- A message with the characters that may steer a terminal shown by their codes. -/
def harmless (message : String) : String :=
  String.join (message.toList.map fun c =>
    if steers c then
      let digits := Nat.toDigits 16 c.toNat
      if c.toNat < 0x80 then
        String.ofList ("\\x".toList ++ List.replicate (2 - digits.length) '0' ++ digits)
      else String.ofList ("\\u".toList ++ '\x7b' :: digits ++ ['\x7d'])
    else c.toString)

namespace Record

/-- A field as a line shows it. A second message stands without its name. -/
private def fieldText : String × String → String
  | ("message", value) => " " ++ harmless value
  | (name, value) => s!" {name}={value}"

/-- The line of a record, its time left out. -/
def text (r : Record) : String :=
  let severity := r.severity.label
  String.ofList (List.replicate (5 - severity.length) ' ') ++ severity
    ++ s!" {r.target}: {harmless r.message}" ++ String.join (r.fields.map fieldText)

end Record

end Reckoner.Log
