import HostAgent.Net.Announce

/-!
# An audience for announcements

Something that hears addresses in place of the network: it keeps every pair of interface and address
that reaches it, or refuses them all.

* `Audience.hear` -- addresses are resolved and heard in order, up to the first that has none.
-/

namespace HostAgent.Net

variable {S : Type}

/-- What was heard so far, and why nothing more is, if so. -/
structure Audience where
  heard : List (String × String) := []
  refusal : Option String := none
  deriving Repr, Inhabited

namespace Audience

/-- Resolve addresses up to the first that has none. -/
def hearEach [Commands S] (a : Audience) : List InterfaceAddress → Pass S (Except Error Unit × Audience)
  | [] => pure (.ok (), a)
  | address :: more => do
    match ← address.resolve.tried with
    | .error e => return (.error e, a)
    | .ok ip => hearEach { a with heard := a.heard ++ [(address.interface, ip)] } more

/-- Hear a list of addresses: how that ends, and the audience after it. -/
def hear [Commands S] (a : Audience) (addresses : List InterfaceAddress) :
    Pass S (Except Error Unit × Audience) :=
  match a.refusal with
  | some words => pure (.error (.broadcast words), a)
  | none => hearEach a addresses

end Audience

end HostAgent.Net
