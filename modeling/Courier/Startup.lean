/-
Setting up the subscriptions of a consumer over one channel. Every
subscription has its plan installed, in order; one whose plan fails is
logged and left out, and the others are still set up. Those that were set
up are then consumed, over the same channel.
-/
import Courier.Blueprint
import Courier.Log
import Courier.Network
import Courier.Topology.Channel
import Courier.Topology.Plan

namespace Courier

open Courier.Topology (Channel Plan)

/-- What is logged before a subscription is set up. -/
def creatingLog (instanceName : String) (s : Subscription) : LogEvent where
  level := .info
  target := .consumer
  message := "creating consumer"
  values := [
    ("instance", .text instanceName),
    ("subscription", .text s.name),
    ("message_type", .text s.messageType)]

/-- What is logged of a subscription that could not be set up. -/
def setupFailureLog (instanceName : String) (s : Subscription) (f : Failure) : LogEvent where
  level := .error
  target := .consumer
  message := "failure to declare the consumer topology"
  values := [
    ("error", .text f.message),
    ("instance", .text instanceName),
    ("subscription", .text s.name)]

/-- What setting up subscriptions came to: those that were set up, with the
queue each consumes, what was logged, and the channel after it. -/
structure Setup (σ : Type) where
  declared : List (Subscription × String)
  logs : List LogEvent
  channel : σ

/-- Sets up subscriptions over a channel. -/
def declareAll {σ : Type} (ch : Channel σ) (instanceName : String)
    (settings : Settings.Consumer) (s : σ) : List Subscription → Setup σ
  | [] => ⟨[], [], s⟩
  | sub :: rest =>
    let plan := Plan.ofSubscription sub settings
    match ch.install s plan.operations with
    | (.ok (), s) =>
      let setup := declareAll ch instanceName settings s rest
      ⟨(sub, plan.queue) :: setup.declared, creatingLog instanceName sub :: setup.logs,
        setup.channel⟩
    | (.error f, s) =>
      let setup := declareAll ch instanceName settings s rest
      ⟨setup.declared,
        creatingLog instanceName sub :: setupFailureLog instanceName sub f :: setup.logs,
        setup.channel⟩

/-- Asks for the deliveries of the queue of a subscription, with as many
unsettled as it processes at once. -/
def Network.subscribe {σ : Type} (net : Network σ) (s : σ) (instanceName : String)
    (sub : Subscription) (queue : String) : Except Failure Unit × σ :=
  match net.ask s instanceName (.prefetch sub.maxParallelism) with
  | (false, s) => (.error (.qosRefused queue), s)
  | (true, s) =>
    match net.ask s instanceName (.consume queue) with
    | (false, s) => (.error (.consumerRefused queue), s)
    | (true, s) => (.ok (), s)

/-- Sets up the subscriptions of a consumer. -/
def ConsumerRole.declare {σ : Type} (c : ConsumerRole) (ch : Channel σ) (instanceName : String)
    (s : σ) : Setup σ :=
  declareAll ch instanceName c.settings s c.subscriptions

end Courier
