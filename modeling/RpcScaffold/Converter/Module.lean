import RpcScaffold.Code.Writer
import RpcScaffold.Converter.Expr
import RpcScaffold.Settings.Basic

/-! # Converter modules

One module for each message: a function in each direction, their variants for lists, and conversions
that call them.
-/

namespace RpcScaffold.Converter

open Code

/-- A function from one record type to another, by its field expressions. -/
structure Conversion where
  name : String
  source : String
  target : String
  fields : List (String × Expr)
  deriving Repr, DecidableEq, Inhabited

/-- The function on lists that applies the function `element` to each. -/
structure ListConversion where
  name : String
  source : String
  target : String
  element : String
  deriving Repr, DecidableEq, Inhabited

structure Module where
  domain : String
  wire : String
  modelsModule : String
  wireModule : String
  usesDecimal : Bool
  toWire : Conversion
  toDomain : Conversion
  toWireList : ListConversion
  toDomainList : ListConversion
  deriving Repr, DecidableEq, Inhabited

/-! ## The module of a message -/

def Module.ofMessage (s : Settings) (m : Message) : Module :=
  let n := s.naming
  let toWire := Naming.toWireFn m.name
  let toDomain := n.toDomainFn m.name
  { domain := m.name
    wire := m.wireName
    modelsModule := s.crates.modelsModule
    wireModule := s.crates.wireModule
    usesDecimal := m.hasFieldOf .decimal
    toWire := {
      name := toWire, source := m.name, target := m.wireName
      fields := m.fields.map fun f => (Naming.wireFieldIdent f.wireName, fieldToWire n f) }
    toDomain := {
      name := toDomain, source := m.wireName, target := m.name
      fields := m.fields.map fun f => (Naming.domainField f.name, fieldToDomain n f) }
    toWireList := ⟨Naming.toWireListFn m.name, m.name, m.wireName, toWire⟩
    toDomainList := ⟨n.toDomainListFn m.name, m.wireName, m.name, toDomain⟩ }

/-! ## Text -/

/-- A record literal. One without fields fits on a line. -/
def literal (type : String) (fields : List (String × Expr)) : Step :=
  if fields.isEmpty then .line (type ++ " " ++ openBrace ++ closeBrace)
  else .block type (fields.map fun f => .line (f.1 ++ ": " ++ f.2.code ++ ","))

def Conversion.step (c : Conversion) : Step :=
  let param := if c.fields.isEmpty then "_item" else "item"
  .block s!"pub fn {c.name}({param}: {c.source}) -> {c.target}" [literal c.target c.fields]

def ListConversion.step (c : ListConversion) : Step :=
  .block s!"pub fn {c.name}(items: Vec<{c.source}>) -> Vec<{c.target}>"
    [.line s!"items.into_iter().map({c.element}).collect()"]

/-- The conversion that calls `function`. -/
def fromStep (source target function : String) : Step :=
  .block s!"impl From<{source}> for {target}"
    [.block s!"fn from(item: {source}) -> Self" [.line s!"{function}(item)"]]

def decimalImport : List Step :=
  [importOf ("rust_decimal::prelude::" ++ inBraces "FromPrimitive, ToPrimitive"), .blank]

def Module.steps (m : Module) : List Step :=
  [fileDoc ("Converters between `" ++ m.domain ++ "` and `" ++ m.wire ++ "`."), .blank]
  ++ (if m.usesDecimal then decimalImport else [])
  ++ [importOf s!"crate::{m.modelsModule}::{m.domain}",
    importOf s!"crate::{m.wireModule}::{m.wire}", .blank,
    m.toWire.step, .blank,
    m.toDomain.step, .blank,
    m.toWireList.step, .blank,
    m.toDomainList.step, .blank,
    fromStep m.domain m.wire m.toWire.name, .blank,
    fromStep m.wire m.domain m.toDomain.name]

def Module.render (m : Module) : String := Code.render m.steps

/-! ## The index -/

def indexSteps (modules : List String) : List Step :=
  [fileDoc "Domain <-> wire converters.", .blank] ++ modules.map moduleLine

def renderIndex (messages : List Message) : String :=
  Code.render (indexSteps (messages.map fun m => Naming.converterModule m.name))

end RpcScaffold.Converter
