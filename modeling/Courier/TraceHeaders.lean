/-
Trace headers: the entries that carry a trace from a publisher to the
consumers of its messages, among the other headers of a message. An entry
is set under its key in lower case, as a long text; it is read under a key
as it is, and only from a long text. A long text that is no text is
reported and not read.
-/
import Courier.Arguments
import Courier.Log
import Courier.Text.Lowercase

namespace Courier

/-- What is logged of a header that is no text. -/
def undecodableHeaderLog (key : String) : LogEvent where
  level := .warn
  target := .traceHeaders
  message := "undecodable trace header"
  values := [("key", .text key)]

namespace TraceHeaders

/-- Sets an entry. -/
def set (headers : Arguments) (key value : String) : Arguments :=
  headers.set (Text.lowercase key) (.text value)

/-- Sets entries in order. -/
def setAll (headers : Arguments) (pairs : List (String × String)) : Arguments :=
  pairs.foldl (fun h p => set h p.1 p.2) headers

/-- The headers that carry a trace of those entries. -/
def inject (pairs : List (String × String)) : Arguments := setAll .empty pairs

/-- Reads an entry; gives also what is logged. -/
def get (headers : Arguments) (key : String) : Option String × List LogEvent :=
  match headers.get? key with
  | some (.longText bytes) =>
    match Text.ofUtf8? bytes with
    | some s => (some s, [])
    | none => (none, [undecodableHeaderLog key])
  | _ => (none, [])

/-- Reads the entries of all keys, in order. -/
def getAll (headers : Arguments) : List (String × Option String) × List LogEvent :=
  let read := headers.keys.map fun k => (k, get headers k)
  (read.map fun (k, s, _) => (k, s), read.flatMap fun (_, _, logs) => logs)

/-- The entries that the headers of a delivery carry; there may be no headers. -/
def extract (headers : Option Arguments) : List (String × Option String) × List LogEvent :=
  getAll (headers.getD .empty)

end TraceHeaders

end Courier
