import RpcScaffold.Json.Reader

/-! # Passing over JSON

A value whose content nobody asks for is only checked for its outline. Brackets may nest to any
depth, numbers may have any size, and the bytes of a string are not decoded.
-/

namespace RpcScaffold.Json.Reader

/-! ## Strings -/

/-- What follows a backslash. -/
def skipEscape : Bytes → Result Unit
  | [] => stop .endInString []
  | b :: s =>
    if ascii b = 'u' then (hexUnit s).map fun r => ((), r.2)
    else if ['"', '\\', '/', 'b', 'f', 'n', 'r', 't'].contains (ascii b) then .ok ((), s)
    else stop .invalidEscape s

theorem skipEscape_length_lt {s t : Bytes} (h : skipEscape s = .ok ((), t)) :
    t.length < s.length := by
  unfold skipEscape at h
  split at h
  · simp [stop] at h
  · split at h
    · next b s _ =>
      cases hu : hexUnit s with
      | error e => simp [hu, Except.map] at h
      | ok r =>
        have := hexUnit_length_lt (show hexUnit s = .ok (r.1, r.2) from hu)
        simp only [hu, Except.map, Except.ok.injEq, Prod.mk.injEq, true_and] at h
        subst h
        simp only [List.length_cons]
        omega
    · split at h
      · simp only [Except.ok.injEq, Prod.mk.injEq, true_and] at h
        subst h
        simp
      · simp [stop] at h

/-- A string after its opening quote. A control character is noticed before it is taken. -/
def skipString : Bytes → Result Unit
  | [] => stop .endInString []
  | b :: s =>
    if ascii b = '"' then .ok ((), s)
    else if ascii b = '\\' then
      match _h : skipEscape s with
      | .error e => .error e
      | .ok ((), s') => skipString s'
    else if b < 0x20 then stop .controlCharacter (b :: s)
    else skipString s
termination_by s => s.length
decreasing_by
  · have := skipEscape_length_lt _h
    simp only [List.length_cons]
    omega
  · simp

/-! ## Numbers -/

/-- An exponent, after the `e`. -/
def skipExponent (s : Bytes) : Result Unit :=
  let digits :=
    match s with
    | b :: r => if ascii b = '+' ∨ ascii b = '-' then r else s
    | [] => []
  match digits with
  | [] => stop .invalidNumber []
  | b :: r => if isDigit b then .ok ((), r.dropWhile isDigit) else stop .invalidNumber r

/-- Decimal places, after the point. -/
def skipDecimals (s : Bytes) : Result Unit :=
  match s with
  | [] => stopAt .invalidNumber []
  | b :: _ =>
    if isDigit b then
      match s.dropWhile isDigit with
      | e :: r => if isExponentMark e then skipExponent r else .ok ((), e :: r)
      | [] => .ok ((), [])
    else stopAt .invalidNumber s

/-- What follows the whole part. -/
def skipAfterWhole : Bytes → Result Unit
  | [] => .ok ((), [])
  | b :: r =>
    if ascii b = '.' then skipDecimals r
    else if isExponentMark b then skipExponent r
    else .ok ((), b :: r)

/-- A number after its sign. -/
def skipNumber : Bytes → Result Unit
  | [] => stop .invalidNumber []
  | b :: s =>
    if ascii b = '0' then
      match s with
      | c :: _ => if isDigit c then stopAt .invalidNumber s else skipAfterWhole s
      | [] => .ok ((), [])
    else if isDigit b then skipAfterWhole (s.dropWhile isDigit)
    else stop .invalidNumber s

/-- A value other than a list or an object, from its first byte on. -/
def skipScalar (b : UInt8) (s : Bytes) : Result Unit :=
  match ascii b with
  | 'n' => expectWord ['u', 'l', 'l'] s
  | 't' => expectWord ['r', 'u', 'e'] s
  | 'f' => expectWord ['a', 'l', 's', 'e'] s
  | '-' => skipNumber s
  | '"' => skipString s
  | _ => if isDigit b then skipNumber (b :: s) else stopAt .expectedValue (b :: s)

/-! ## Lists and objects -/

inductive Bracket
  | list
  | object
  deriving Repr, DecidableEq

namespace Bracket

def opened? (b : UInt8) : Option Bracket :=
  if ascii b = '[' then some list else if ascii b = '\x7b' then some object else none

def closing : Bracket → Char
  | list => ']'
  | object => '\x7d'

def endFault : Bracket → SyntaxFault
  | list => .endInList
  | object => .endInObject

def separatorFault : Bracket → SyntaxFault
  | list => .expectedCommaOrBracket
  | object => .expectedCommaOrBrace

/-- What stands before a value inside these brackets: in an object a key and a colon. -/
def skipLabel : Bracket → Bytes → Result Unit
  | list, s => .ok ((), s)
  | object, s =>
    match skipSpace s with
    | [] => stopAt .endInObject []
    | b :: r =>
      if ascii b = '"' then
        match skipString r with
        | .error e => .error e
        | .ok ((), s) =>
          match skipSpace s with
          | [] => stopAt .endInObject []
          | b :: r => if ascii b = ':' then .ok ((), r) else stopAt .expectedColon (b :: r)
      else stopAt .keyMustBeString (b :: r)

end Bracket

/-- Closes brackets, innermost first, up to a comma. Those that are still open are left. -/
def closeBrackets : List Bracket → Bytes → Result (List Bracket)
  | [], s => .ok ([], s)
  | bracket :: outer, s =>
    match skipSpace s with
    | [] => stopAt bracket.endFault []
    | b :: r =>
      if ascii b = ',' then .ok (bracket :: outer, r)
      else if ascii b = bracket.closing then closeBrackets outer r
      else stopAt bracket.separatorFault (b :: r)

/-- A scalar or an opening bracket, and the brackets that close after it. -/
def skipStep (inside : List Bracket) (s : Bytes) : Result (List Bracket) :=
  match skipSpace s with
  | [] => stopAt .endInValue []
  | b :: r =>
    match Bracket.opened? b with
    | none =>
      match skipScalar b r with
      | .error e => .error e
      | .ok ((), s) => closeBrackets inside s
    | some bracket =>
      match skipSpace r with
      | [] => stopAt bracket.endFault []
      | c :: r =>
        if ascii c = bracket.closing then closeBrackets inside r
        else .ok (bracket :: inside, c :: r)

/-- Each step takes a byte, so `fuel` is their number. -/
def skipInside : Nat → List Bracket → Bytes → Result Unit
  | 0, _, s => stop .endInValue s
  | fuel + 1, inside, s =>
    match skipStep inside s with
    | .error e => .error e
    | .ok ([], s) => .ok ((), s)
    | .ok (bracket :: outer, s) =>
      match bracket.skipLabel s with
      | .error e => .error e
      | .ok ((), s) => skipInside fuel (bracket :: outer) s

/-- One value of any kind. -/
def skipValue (s : Bytes) : Result Unit := skipInside (s.length + 1) [] s

end RpcScaffold.Json.Reader
