import RpcScaffold.Versions
import RpcScaffold.Json.Typed

/-! # Versions in an answer of the package registry

The answer to a question about a package holds, among much else, the newest version and the newest
one that is no preview.
-/

namespace RpcScaffold

open Json

structure PublishedVersions where
  stable : Option String := none
  newest : String := ""
  deriving Repr, DecidableEq

namespace PublishedVersions

def record : Typed.Record PublishedVersions where
  name := "CrateInfo"
  keys := ["max_stable_version", "max_version"]
  required := ["max_version"]
  draft := {}
  read key draft s :=
    if key = "max_version" then
      (Typed.string s).map fun p => ({ draft with newest := p.1 }, p.2)
    else
      (Typed.option Typed.string s).map fun p => ({ draft with stable := p.1 }, p.2)

def answer : Typed.Record PublishedVersions where
  name := "CrateResponse"
  keys := ["crate"]
  required := ["crate"]
  draft := {}
  read _ _ s := record.decode s

/-- A preview is only chosen if there is nothing else. -/
def preferred (v : PublishedVersions) : String := v.stable.getD v.newest

/-- The version to use, as the answer about the package says it. -/
def ofAnswer (package : String) (body : String) : Except VersionFault String :=
  match answer.parse body.toUTF8.toList with
  | .ok v => .ok v.preferred
  | .error message => .error (.unreadable package message)

end PublishedVersions

end RpcScaffold
