import RpcScaffold.Identifier
import RpcScaffold.Text.Words

/-! # Names of the generated code

Adapters and proxies call converter functions by constructed names, never by look-up. So every name
is derived here, from the declared names and three settings. Wire names follow what the code
generators for Protocol Buffers make of a schema.
-/

namespace RpcScaffold

open Text

structure Naming where
  /-- Starts every wire message and wire service name. -/
  wirePrefix : String := "Grpc"
  /-- Ends every service type name, and is no part of the short name. -/
  serviceSuffix : String := "Service"
  /-- Starts the wire name of a timestamp field. -/
  timestampPrefix : String := "dt_"
  deriving Repr, DecidableEq, Inhabited

namespace Naming

variable (n : Naming)

/-! ## The wire side -/

def wireMessage (model : String) : String := n.wirePrefix ++ upperCamel model

def wireService (shortName : String) : String := n.wirePrefix ++ upperCamel shortName

def rpcMethod (method : String) : String := upperCamel method

def wireField (field : String) (isTimestamp : Bool) : String :=
  if isTimestamp then n.timestampPrefix ++ snakeCase field else snakeCase field

/-! ## Identifiers -/

/-- The method on the service interface and on the generated client. -/
def methodIdent (method : String) : String := rawIdent (snakeCase method)

def domainField (field : String) : String := rawIdent (snakeCase field)

def wireFieldIdent (wireField : String) : String := rawIdent wireField

def moduleOf (typeName : String) : String := snakeCase typeName

/-- A variable for a value of the type. -/
def binding (typeName : String) : String := rawIdent (snakeCase typeName)

/-! ## Converters -/

def converterModule (model : String) : String := snakeCase model ++ "_converter"

def toWireFn (model : String) : String := "from_" ++ snakeCase model

def toDomainFn (model : String) : String := "from_" ++ snakeCase (n.wireMessage model)

def toWireListFn (model : String) : String := toWireFn model ++ "_list"

def toDomainListFn (model : String) : String := n.toDomainFn model ++ "_list"

/-! ## Server and client -/

def adapterType (shortName : String) : String := n.wireService shortName ++ "Service"

def serverModule (shortName : String) : String := snakeCase (n.wireService shortName) ++ "_server"

def serverType (shortName : String) : String := n.wireService shortName ++ "Server"

def clientModule (shortName : String) : String := snakeCase (n.wireService shortName) ++ "_client"

def clientType (shortName : String) : String := n.wireService shortName ++ "Client"

def proxyType (shortName : String) : String := upperCamel shortName ++ "Client"

end Naming

end RpcScaffold
