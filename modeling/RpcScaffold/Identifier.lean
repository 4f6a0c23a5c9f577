/-! # Identifiers of the generated code -/

namespace RpcScaffold

def isIdentStart (c : Char) : Bool := c.isAlpha || c == '_'

def isIdentRest (c : Char) : Bool := c.isAlphanum || c == '_'

/-- An ASCII letter or underscore, then ASCII letters, digits and underscores. -/
def isIdentifier (s : String) : Bool :=
  match s.toList with
  | [] => false
  | c :: rest => isIdentStart c && rest.all isIdentRest

/-- Words that Rust reserves, now or for later. -/
def reservedWords : List String := [
  "as", "async", "await", "break", "const", "continue", "crate", "dyn", "else", "enum", "extern",
  "false", "fn", "for", "if", "impl", "in", "let", "loop", "match", "mod", "move", "mut", "pub",
  "ref", "return", "self", "Self", "static", "struct", "super", "trait", "true", "type", "unsafe",
  "use", "where", "while", "abstract", "become", "box", "do", "final", "gen", "macro", "override",
  "priv", "try", "typeof", "unsized", "virtual", "yield"]

/-- A reserved word is written as a raw identifier. -/
def rawIdent (name : String) : String :=
  if reservedWords.contains name then "r#" ++ name else name

end RpcScaffold
