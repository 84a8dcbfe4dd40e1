import ResourceTree.Failure
import ResourceTree.Url.Reader

/-!
# The server

The address of the server, checked when it is given, and the addresses of what it offers: the tree,
the events, and the description and the actions of a resource, which its uid names in the path.
-/

namespace ResourceTree
set_option autoImplicit false

/-- A server by its address, to which paths can be appended. -/
structure Server where
  base : Url
  isBase : base.isBase = true
  deriving DecidableEq

namespace Server

/-- The server at an address. -/
def ofAddress (address : String) : Except Failure Server :=
  match Url.ofText address with
  | .error f => .error { message := "Invalid API URL: " ++ address, causes := [f.message] }
  | .ok base =>
    if h : base.isBase = true then .ok ⟨base, h⟩
    else .error { message := "API URL cannot be used as a base: " ++ address }

/-- The address of what segments after the base name. -/
def endpoint (s : Server) (segments : List String) : Url := s.base.append segments

/-- The address of the tree. -/
def tree (s : Server) : Url := s.endpoint ["api", "tree"]

/-- The address of the events. -/
def events (s : Server) : Url := s.endpoint ["api", "events"]

/-- The address of what can be done with a resource. -/
def resource (s : Server) (uid verb : String) : Url := s.endpoint ["api", "resource", uid, verb]

end Server

end ResourceTree
