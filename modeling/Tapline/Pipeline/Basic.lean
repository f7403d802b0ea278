import Tapline.Hook
/-!
# Pipelines

A pipeline makes the hooks of one part of a program. They share its two chains of handlers and
its logger, and each begins with a copy of its default arguments, which may change between one
hook and the next.
-/

namespace Tapline

/-- What the hooks of one part of a program share. -/
structure Pipeline (δ ε υ : Type) where
  defaults : Bag
  before : List (Handler δ ε υ)
  after : List (Handler δ ε υ)
  logger : Option LoggerRef

namespace Pipeline

variable {δ ε υ : Type}

def empty : Pipeline δ ε υ := ⟨.empty, [], [], none⟩

instance : Inhabited (Pipeline δ ε υ) := ⟨empty⟩

def setDefault (pipeline : Pipeline δ ε υ) (name : String) (value : Value) : Pipeline δ ε υ :=
  { pipeline with defaults := pipeline.defaults.insert name value }

/-- A hook for one operation. -/
def hook (pipeline : Pipeline δ ε υ) (context : Context) : Hook δ ε υ :=
  ⟨⟨pipeline.defaults, context, pipeline.logger, .empty⟩, pipeline.before, pipeline.after⟩

def describe (pipeline : Pipeline δ ε υ) (world : World δ ε υ) : String :=
  "Manager \x7b defaults: " ++ toString pipeline.defaults.size ++
    ", pre: " ++ toString pipeline.before.length ++
    ", post: " ++ toString pipeline.after.length ++ ", logger: " ++
    ((pipeline.logger.map fun ref => "Some(" ++ (world.logger ref).describe ++ ")").getD "None") ++
    " \x7d"

variable [ByteStream δ ε]

def close (pipeline : Pipeline δ ε υ) (world : World δ ε υ) :
    Except PipelineError Unit × World δ ε υ :=
  match pipeline.logger with
  | none => (.ok (), world)
  | some ref =>
    let (result, world) := world.closeLogger ref
    (result.mapError .close, world)

/-- Gives the pipeline up, and its logger with it. -/
def drop (pipeline : Pipeline δ ε υ) (world : World δ ε υ) : World δ ε υ :=
  match pipeline.logger with
  | none => world
  | some ref => world.dropLogger ref

end Pipeline

end Tapline
