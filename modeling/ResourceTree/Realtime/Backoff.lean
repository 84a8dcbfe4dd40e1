/-!
# Delays between attempts to reconnect

The delay doubles with every attempt up to a maximum; attempts are counted from one and limited.
Delays are in milliseconds.
-/

namespace ResourceTree
set_option autoImplicit false

structure ReconnectPolicy where
  maxRetries : Nat
  baseDelay : Nat
  maxDelay : Nat
  deriving DecidableEq, Repr

namespace ReconnectPolicy

/-- The largest factor that is used. -/
def factorLimit : Nat := Nat.pow 2 32 - 1

/-- The largest delay that can be represented: the seconds fill sixty-four bits. -/
def delayLimit : Nat := Nat.pow 2 64 * 1000

/-- The delay before an attempt, none when the attempts are used up. -/
def delayFor (p : ReconnectPolicy) (attempt : Nat) : Option Nat :=
  if attempt = 0 ∨ p.maxRetries < attempt then none
  else
    let factor := if attempt < 32 then Nat.pow 2 attempt else factorLimit
    let delay := p.baseDelay * factor
    some (min (if delay < delayLimit then delay else p.maxDelay) p.maxDelay)

/-- The delays of all attempts. -/
def schedule (p : ReconnectPolicy) : List Nat :=
  (List.range p.maxRetries).filterMap fun i => p.delayFor (i + 1)

end ReconnectPolicy

end ResourceTree
