/-!
How many sends the service still allows, for the phone number and for the caller's address.
-/

set_option autoImplicit false

namespace Passcode

/-- Each counter is present only once it has been reported. -/
structure Quota where
  phone : Option UInt32 := none
  ip : Option UInt32 := none
  deriving DecidableEq, Repr

namespace Quota

def isEmpty (q : Quota) : Bool :=
  q.phone.isNone && q.ip.isNone

/-- Counters that are reported replace the known ones; the others stay. -/
def observe (known reported : Quota) : Quota where
  phone := reported.phone.or known.phone
  ip := reported.ip.or known.ip

end Quota

end Passcode
