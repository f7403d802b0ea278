import Tapline.Operation
/-!
# Handlers that change an operation

These handlers set, copy or remove arguments, change the request of the context, or count how
often an operation has passed.
-/

namespace Tapline.Handler

variable {δ ε υ : Type}

def set (name : String) (value : Value) : Handler δ ε υ := fun op world =>
  (op.set name value, world)

/-- Sets an argument to the value of another one, if that has one. -/
def copy (source target : String) : Handler δ ε υ := fun op world =>
  (((op.bag.get? source).map (op.set target)).getD op, world)

def remove (name : String) : Handler δ ε υ := fun op world =>
  ({ op with bag := op.bag.erase name }, world)

def withRequest (request : RequestMeta) : Handler δ ε υ := fun op world =>
  ({ op with context := op.context.withRequest request }, world)

/-- Gives the request of the context a random identifier. -/
def freshRequestId : Handler δ ε υ := fun op world =>
  let (id, world) := world.drawIdentifier
  ({ op with context := op.context.withRequestId id }, world)

/-- Counts, with the operation, how often it has passed, and sets an argument to the count. -/
def countPasses (name : String) : Handler δ ε υ := fun op world =>
  let passes : UInt32 := (op.extensions.get? (.plain .unsigned32)).getD (0 : UInt32) + 1
  let op := { op with extensions := op.extensions.put (.plain .unsigned32) passes }
  (op.set name (.uint passes.toUInt64), world)

end Tapline.Handler
