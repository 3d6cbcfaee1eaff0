/-!
# Transports

How a driver reaches its instrument.
-/

namespace Attenuation

/-- How a driver reaches its instrument. -/
inductive Transport where
  /-- Text commands over a network terminal. -/
  | telnet
  /-- Text commands over a serial line. -/
  | serial
  /-- An instrument simulated in the same process. -/
  | simulated
deriving Repr, DecidableEq

namespace Transport

/-- Every transport, in the order in which drivers are listed. -/
def all : List Transport := [.telnet, .serial, .simulated]

/-- A descriptor that names no transport means the network terminal. -/
instance : Inhabited Transport := ⟨.telnet⟩

/-- The name of a transport. -/
def name : Transport → String
  | .telnet => "telnet"
  | .serial => "serial"
  | .simulated => "simulated"

/-- The position of a transport in listings. -/
def rank : Transport → Nat
  | .telnet => 0
  | .serial => 1
  | .simulated => 2

end Transport

end Attenuation
