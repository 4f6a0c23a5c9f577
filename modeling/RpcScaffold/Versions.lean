import RpcScaffold.NameMap

/-! # Versions of the packages that generated code depends on -/

namespace RpcScaffold

abbrev PackageVersions := NameMap String

inductive VersionFault
  | unpinned (package : String)
  | unreachable (package message : String)
  /-- An answer of the package registry that does not say a version. -/
  | unreadable (package message : String)
  deriving Repr, DecidableEq

def VersionFault.message : VersionFault → String
  | unpinned package => "no pinned version for " ++ package
  | unreachable package message =>
    "version lookup for " ++ package ++ " failed: " ++ message
  | unreadable package message =>
    "unexpected crates.io response for " ++ package ++ ": " ++ message

namespace PackageVersions

/-- Every package with a version that is known to work. -/
def pinned : PackageVersions := .ofList [
  ("async-trait", "0.1"),
  ("chrono", "0.4"),
  ("prost", "0.13"),
  ("rust_decimal", "1"),
  ("tokio", "1"),
  ("tonic", "0.12"),
  ("tonic-build", "0.12")]

def pinnedVersion (package : String) : Except VersionFault String :=
  match pinned.get? package with
  | some version => .ok version
  | none => .error (.unpinned package)

/-- A package without a version may have any. -/
def versionOf (v : PackageVersions) (package : String) : String := (v.get? package).getD "*"

end PackageVersions

end RpcScaffold
