/-!
# Errors

`turbobond/errors.py`: the exceptions of the program, and the others as its handlers tell them apart.
-/

namespace Turbobond.Util

/-- `TurboBondError` and its subclasses. -/
inductive ErrorClass where
  | turboBond
  | config
  | dependency
  | privilege
  | router
  | routerAuth
  | routerUnsupported
  | link
  | bond
  | transport
  | firewall
  | activation
  | auth
  deriving DecidableEq

def ErrorClass.code : ErrorClass → String
  | .turboBond => "turbobond_error"
  | .config => "config_error"
  | .dependency => "dependency_error"
  | .privilege => "privilege_error"
  | .router => "router_error"
  | .routerAuth => "router_auth_error"
  | .routerUnsupported => "router_unsupported"
  | .link => "link_error"
  | .bond => "bond_error"
  | .transport => "transport_error"
  | .firewall => "firewall_error"
  | .activation => "activation_error"
  | .auth => "auth_error"

/-- An exception, with what `str` makes of it. -/
inductive Exn where
  | turboBond (cls : ErrorClass) (message : String) (remedy : Option String)
  | osError (text : String)
  | other (text : String)
  deriving DecidableEq

namespace Exn

/-- `isinstance(exc, TurboBondError)`. -/
def isTurboBondError : Exn → Bool
  | .turboBond .. => true
  | .osError _ | .other _ => false

/-- `isinstance(exc, RouterError)`. -/
def isRouterError : Exn → Bool
  | .turboBond cls .. => cls = .router || cls = .routerAuth || cls = .routerUnsupported
  | .osError _ | .other _ => false

/-- `isinstance(exc, OSError)`. -/
def isOSError : Exn → Bool
  | .osError _ => true
  | .turboBond .. | .other _ => false

/-- `str(exc)`, which is the `message` of a `TurboBondError`. -/
def message : Exn → String
  | .turboBond _ message _ => message
  | .osError text | .other text => text

/-- `as_dict` of a `TurboBondError`, and what `activate` answers for the others. -/
def asDict : Exn → List (String × Option String)
  | .turboBond cls message remedy =>
    [("code", some cls.code), ("message", some message), ("remedy", remedy)]
  | .osError text | .other text => [("code", some "internal"), ("message", some text)]

end Exn

end Turbobond.Util
