import Tapline.Operation
/-!
# Hooks

A hook is one operation with the two chains of handlers that surround it. Its steps run one of
the chains, or both around a body, which may change the operation in between.
-/

namespace Tapline

/-- An operation between two chains of handlers. -/
structure Hook (δ ε υ : Type) where
  operation : Operation
  before : List (Handler δ ε υ)
  after : List (Handler δ ε υ)

namespace Hook

variable {δ ε υ : Type}

/-- A hook without handlers. -/
def bare (context : Context) : Hook δ ε υ := ⟨.inContext context, [], []⟩

def runBefore (hook : Hook δ ε υ) (world : World δ ε υ) : Hook δ ε υ × World δ ε υ :=
  let (operation, world) := runChain hook.before hook.operation world
  ({ hook with operation }, world)

def runAfter (hook : Hook δ ε υ) (world : World δ ε υ) : Hook δ ε υ × World δ ε υ :=
  let (operation, world) := runChain hook.after hook.operation world
  ({ hook with operation }, world)

/-- Runs both chains around a body. -/
def run {α : Type} (hook : Hook δ ε υ) (world : World δ ε υ)
    (body : Hook δ ε υ → World δ ε υ → α × Hook δ ε υ × World δ ε υ) :
    α × Hook δ ε υ × World δ ε υ :=
  let (hook, world) := hook.runBefore world
  let (result, hook, world) := body hook world
  (result, hook.runAfter world)

/-- The hook by its parts. -/
def describe (hook : Hook δ ε υ) (world : World δ ε υ) : String :=
  let op := hook.operation
  "Hook \x7b args: " ++ op.bag.describe ++
    ", ctx: " ++ op.context.describe (fun ref => (world.trail ref).crumbs.length) ++
    ", pre: " ++ toString hook.before.length ++ ", post: " ++ toString hook.after.length ++
    ", logger: " ++ (if op.logger.isSome then "true" else "false") ++ " \x7d"

end Hook

end Tapline
