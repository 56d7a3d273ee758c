import TwinDesk.Link.LinkError
import TwinDesk.Protocol.Opcode
import TwinDesk.Protocol.Status

/-!
# Errors of the Main processor
-/

namespace TwinDesk

/-- Why an operation of the Main processor failed. -/
inductive MainError where
  /-- The Sub processor came up in another stage than ready; carries status word 0. -/
  | subNotReady (word : UInt16)
  /-- The Sub processor answered a command with `ERROR`. -/
  | commandFailed (opcode : Opcode)
  /-- The Sub processor could not paint a frame. -/
  | renderFailed
  | link (error : LinkError)
  deriving DecidableEq, Repr, Inhabited

/-- The error in words. -/
def MainError.message : MainError → String
  | subNotReady word =>
    match Lifecycle.ofWord? word with
    | some stage => s!"sub not ready after boot: {stage.inspect}"
    | none => s!"sub not ready after boot: state {Text.hex 4 word.toNat}"
  | commandFailed opcode => s!"sub rejected {opcode.describe}"
  | renderFailed => "sub failed to render a frame"
  | link error => s!"link error: {error.message}"

end TwinDesk
