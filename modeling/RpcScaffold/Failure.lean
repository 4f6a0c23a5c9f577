/-! # Why a generation fails

Every failure ends the whole run. The message is what a caller shows, word for word.
-/

namespace RpcScaffold

/-- Where the fault lies: in the declarations, in their absence, or with a collaborator. -/
inductive FailureKind
  | structural
  | emptyInput
  | collaborator
  deriving Repr, DecidableEq

def FailureKind.text : FailureKind → String
  | .structural => "structural"
  | .emptyInput => "empty-input"
  | .collaborator => "collaborator"

inductive Failure
  | emptyInput (message : String)
  | invalidServiceName (name ending : String)
  | serviceNameCollision (shortName first second : String)
  | missingInterface (service : String)
  | methodArity (method problem : String)
  | methodReturnShape (method : String)
  | unknownModel (context name : String)
  | duplicateModel (name : String)
  | nameCollision (ident first second : String)
  | unsupportedType (model field type reason : String)
  | invalidArgument (message : String)
  | invariant (message : String)
  | serialization (message : String)
  | cancelled
  deriving Repr, DecidableEq

namespace Failure

def message : Failure → String
  | emptyInput message => message
  | invalidServiceName name ending =>
    s!"GrpcService names must end with the word '{ending}': {name}"
  | serviceNameCollision shortName first second =>
    s!"services {first} and {second} both reduce to the short name '{shortName}'"
  | missingInterface service =>
    s!"Can not find an interface with the service marker on {service}"
  | methodArity method problem => s!"Service method {method} {problem}"
  | methodReturnShape method => s!"Service method {method} must return a single-result async value"
  | unknownModel context name => s!"{context} uses {name} which is not a declared model"
  | duplicateModel name => s!"model {name} is declared more than once"
  | nameCollision ident first second =>
    s!"{first} and {second} both generate the identifier {ident}"
  | unsupportedType model field type reason =>
    s!"field {model}.{field} has unsupported type {type}: {reason}"
  | invalidArgument message => s!"invalid argument: {message}"
  | invariant message => s!"invariant violated: {message}"
  | serialization message => s!"serialization error: {message}"
  | cancelled => "generation cancelled"

def kind : Failure → FailureKind
  | emptyInput _ => .emptyInput
  | serialization _ | cancelled => .collaborator
  | _ => .structural

/-- A text that could not be rendered. -/
def unrendered : Failure := invariant "failed to render generated text"

end Failure

end RpcScaffold
