/-
The failures of the library, by cause, and the text each is reported with.
Settings and declarations fail before any network use; reaching the broker
and declaring objects on it fail at start; publishing and settling fail in
steady state. What a handler reports is no failure of the library: see
`Handler`.
-/
namespace Courier

/-- Why an operation of the library failed. -/
inductive Failure where
  /-- A setting, or a combination of settings, that makes no sense. -/
  | invalidConfiguration (reason : String)
  /-- The broker did not answer, at every attempt. -/
  | brokerUnreachable (reason : String)
  /-- The component was used after it was closed. -/
  | alreadyDisposed
  /-- No instance, or none that publishes, has this name. -/
  | unknownInstance (name : String)
  /-- A connection gave no channel. -/
  | channelRefused
  | exchangeRefused (exchange : String)
  | queueRefused (queue : String)
  | queueBindingRefused (exchange queue : String)
  | exchangeBindingRefused (source destination : String)
  | qosRefused (queue : String)
  | consumerRefused (queue : String)
  /-- A message has no written form. -/
  | unwritableMessage
  | publishRefused
  | ackRefused
  | nackRefused
  deriving DecidableEq, Repr

/-- The text a failure is reported with. -/
def Failure.message : Failure → String
  | invalidConfiguration reason => "invalid configuration: " ++ reason
  | brokerUnreachable reason => "broker unreachable: " ++ reason
  | alreadyDisposed => "already disposed"
  | unknownInstance name => "unknown instance `" ++ name ++ "`"
  | channelRefused => "failure to create a channel"
  | exchangeRefused exchange => "failure to declare an exchange `" ++ exchange ++ "`"
  | queueRefused queue => "failure to declare a queue `" ++ queue ++ "`"
  | queueBindingRefused exchange queue =>
    "failure to binding exchange `" ++ exchange ++ "` to queue `" ++ queue ++ "`"
  | exchangeBindingRefused source destination =>
    "failure to binding exchange `" ++ source ++ "` to exchange `" ++ destination ++ "`"
  | qosRefused queue => "failure to configure qos `" ++ queue ++ "`"
  | consumerRefused queue => "consumer declaration error `" ++ queue ++ "`"
  | unwritableMessage => "failure to serialize payload"
  | publishRefused => "failure to publish"
  | ackRefused => "failure to ack message"
  | nackRefused => "failure to nack message"

end Courier
