/-
Handling of messages by the application. For every payload that can be
read as a message, a handler is built and handed that message; it may take
its time, and it ends well, with an error, or by breaking off. Building the
handler may break off, too. Whatever happens, the handling has a result:
nothing an application does escapes from here.

Only payloads that can be read count as calls, so the number of a call is
the number of readable payloads before it.
-/
import Courier.Message

namespace Courier

/-- How a handler ends. -/
inductive Verdict where
  | done
  | failed (reason : String)
  /-- The handler broke off; the reason is known only if it is text. -/
  | brokeOff (reason : Option String)
  deriving DecidableEq, Repr

/-- What the application does with one message. -/
inductive Performance where
  /-- A handler is built, pauses for some milliseconds if it pauses, and ends. -/
  | handled (pause : Option Nat) (verdict : Verdict)
  /-- Building the handler breaks off. -/
  | unbuilt (reason : Option String)
  deriving DecidableEq, Repr

/-- The application's side of a subscription: which messages it takes, and what
it does with the message of each call. It sees whether it was cancelled. -/
structure Handler where
  format : Format
  perform : Nat → Json.Value → Bool → Performance

/-- What an application shows of its work. -/
inductive HandlerEvent where
  /-- A handler was handed a message. -/
  | handle (call : Nat) (message : Json.Value)
  /-- Building the handler broke off. -/
  | factory (call : Nat)
  /-- A handler has paused. -/
  | rested (call : Nat)

/-- Why a payload was not handled. -/
inductive HandlingError where
  | unreadable (fault : Json.Fault)
  | reported (reason : String)
  deriving DecidableEq, Repr

/-- The handling of one payload: what is shown at once, the pause, what is shown
after it, and the result. -/
structure Handling where
  shown : List HandlerEvent
  pause : Option Nat
  shownLater : List HandlerEvent
  result : Except HandlingError Unit

/-- What is reported of a handler that broke off. -/
def brokeOffMessage (reason : Option String) : String :=
  "handler panicked: " ++ reason.getD "unknown reason"

/-- The result of a handler that ended. -/
def Verdict.result : Verdict → Except HandlingError Unit
  | done => .ok ()
  | failed reason => .error (.reported reason)
  | brokeOff reason => .error (.reported (brokeOffMessage reason))

/-- What a performance shows, and its result. -/
def Performance.handling (call : Nat) (message : Json.Value) : Performance → Handling
  | handled pause verdict =>
    { shown := [.handle call message]
      pause := pause
      shownLater := if pause.isSome then [.rested call] else []
      result := verdict.result }
  | unbuilt reason =>
    { shown := [.factory call]
      pause := none
      shownLater := []
      result := .error (.reported (brokeOffMessage reason)) }

/-- Handles a payload when `calls` readable ones came before; also gives the
number of readable ones up to and with this one. -/
def Handler.handle (h : Handler) (calls : Nat) (payload : List UInt8) (cancelled : Bool) :
    Handling × Nat :=
  match h.format.read payload with
  | .error fault =>
    ({ shown := [], pause := none, shownLater := [], result := .error (.unreadable fault) }, calls)
  | .ok message => ((h.perform calls message cancelled).handling calls message, calls + 1)

-- ============================================================= scripts

/-- A simple thing to do with a message. -/
inductive Action where
  | succeed
  | fail (reason : String)
  | breakOff (reason : Option String)
  | breakFactory (reason : String)
  /-- Fails when cancelled. -/
  | failIfCancelled (reason : String)
  /-- Pauses for some milliseconds. -/
  | rest (millis : Nat)
  | restThenFail (millis : Nat) (reason : String)
  deriving DecidableEq, Repr

/-- What is done with a message. -/
def Action.performance (cancelled : Bool) : Action → Performance
  | succeed => .handled none .done
  | fail reason => .handled none (.failed reason)
  | breakOff reason => .handled none (.brokeOff reason)
  | breakFactory reason => .unbuilt (some reason)
  | failIfCancelled reason => .handled none (if cancelled then .failed reason else .done)
  | rest millis => .handled (some millis) .done
  | restThenFail millis reason => .handled (some millis) (.failed reason)

/-- The action of a call in a script: one action a call, the last one for all
calls past the end. An empty script always succeeds. -/
def scriptedAction (script : List Action) (call : Nat) : Action :=
  (script[call]?.or script.getLast?).getD .succeed

/-- The handler that follows a script. -/
def Handler.scripted (format : Format) (script : List Action) : Handler where
  format := format
  perform call _ cancelled := (scriptedAction script call).performance cancelled

end Courier
