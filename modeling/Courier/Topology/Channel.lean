/-
Installing operations over a channel to a broker, in order, up to the first
one that fails. A channel is anything that accepts or refuses operations
and remembers what it was asked: nothing is said about why it refuses.

One channel is defined here, the `recorder`. It keeps the operations asked
so far, the refused ones too, and refuses by a given rule on that history.
-/
import Courier.Topology.Operation

namespace Courier.Topology

/-- A channel whose state is of type `σ`: what it answers to an operation
(whether it accepts it) and its state after that. -/
structure Channel (σ : Type) where
  ask : σ → Operation → Bool × σ

variable {σ : Type}

/-- Asks for one operation. One without a name never reaches the channel. -/
def Channel.perform (ch : Channel σ) (s : σ) (op : Operation) : Except Failure Unit × σ :=
  match op.call with
  | .error failure => (.error failure, s)
  | .ok call =>
    match ch.ask s op with
    | (true, s) => (.ok (), s)
    | (false, s) => (.error call.refusal, s)

/-- Asks for operations in order, up to the first one that fails. -/
def Channel.install (ch : Channel σ) (s : σ) : List Operation → Except Failure Unit × σ
  | [] => (.ok (), s)
  | op :: rest =>
    match ch.perform s op with
    | (.error failure, s) => (.error failure, s)
    | (.ok (), s) => ch.install s rest

/-- The channel that records operations and refuses those that a rule on the
operations before picks out. -/
def recorder (refuses : List Operation → Operation → Bool) : Channel (List Operation) where
  ask history op := (!refuses history op, history ++ [op])

end Courier.Topology
