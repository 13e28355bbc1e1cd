import Coprocessor.Device.Server
import Coprocessor.Host.Client

/-!
# A device on the same link

The other end of a link may be a device that is served.
-/

namespace Coprocessor.Host

variable {σ τ : Type}

/-- A device at the other end : the server, and the bytes that are not yet a frame. -/
structure Loopback (σ τ : Type) where
  /-- The server. -/
  server : Device.Server σ τ
  /-- The bytes that are not yet a frame. -/
  unread : Bytes := []

/-- What the device does with bytes that reach it. -/
def Loopback.react : Reaction (Loopback σ τ) := fun time s b =>
  let (unread, server) := (b.server.passTo time).serve (b.unread ++ s)
  ((server.written.reverse, server.log.reverse),
    ⟨{ server with written := [], log := [] }, unread⟩)

end Coprocessor.Host
