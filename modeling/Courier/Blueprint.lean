/-
Blueprints: the checked description of all instances of a relay. Instances
are checked in the order given, and no two of them may have one name.
-/
import Courier.Blueprint.Instance

namespace Courier

/-- All instances of a relay. -/
structure Blueprint where
  instances : List Instance

namespace Blueprint

/-- What is reported of a name that was used before. -/
def usedTwice (name : String) : String :=
  "instance name `" ++ name ++ "` is used more than once"

/-- Checks instances when those with the names `taken` came before. -/
def buildFrom (taken : List String) : List InstanceDraft → Except Failure (List Instance)
  | [] => .ok []
  | d :: rest => do
    let i ← d.build
    refuseIf (taken.contains i.name) (usedTwice i.name)
    return i :: (← buildFrom (i.name :: taken) rest)

/-- Checks the instances of a relay. -/
def build (drafts : List InstanceDraft) : Except Failure Blueprint :=
  (Blueprint.mk ·) <$> buildFrom [] drafts

/-- The instance of a name. -/
def find? (b : Blueprint) (name : String) : Option Instance :=
  b.instances.find? (·.name == name)

end Blueprint

end Courier
