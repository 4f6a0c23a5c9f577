import RpcScaffold.Json.Basic
import RpcScaffold.Json.Place

/-! # Reading JSON

The text is a sequence of bytes, of which only the strings need to be UTF-8. A fault is reported
with the line and the column in bytes where it was noticed.
-/

namespace RpcScaffold.Json

namespace Reader

inductive SyntaxFault
  | endInValue
  | endInList
  | endInObject
  | endInString
  | expectedValue
  | expectedIdent
  | expectedCommaOrBracket
  | expectedCommaOrBrace
  | expectedColon
  | keyMustBeString
  | trailingComma
  | trailingCharacters
  | invalidNumber
  | numberOutOfRange
  | invalidEscape
  | endOfHexEscape
  | loneSurrogate
  | controlCharacter
  | invalidCodePoint
  | tooDeep
  deriving Repr, DecidableEq

def SyntaxFault.message : SyntaxFault → String
  | endInValue => "EOF while parsing a value"
  | endInList => "EOF while parsing a list"
  | endInObject => "EOF while parsing an object"
  | endInString => "EOF while parsing a string"
  | expectedValue => "expected value"
  | expectedIdent => "expected ident"
  | expectedCommaOrBracket => "expected `,` or `]`"
  | expectedCommaOrBrace => "expected `,` or `\x7d`"
  | expectedColon => "expected `:`"
  | keyMustBeString => "key must be a string"
  | trailingComma => "trailing comma"
  | trailingCharacters => "trailing characters"
  | invalidNumber => "invalid number"
  | numberOutOfRange => "number out of range"
  | invalidEscape => "invalid escape"
  | endOfHexEscape => "unexpected end of hex escape"
  | loneSurrogate => "lone leading surrogate in hex escape"
  | controlCharacter => "control character (\\u0000-\\u001F) found while parsing a string"
  | invalidCodePoint => "invalid unicode code point"
  | tooDeep => "recursion limit exceeded"

/-- A fault, and how many bytes were left where it was noticed. -/
structure Stop where
  fault : SyntaxFault
  left : Nat
  deriving Repr, DecidableEq

abbrev Bytes := List UInt8

/-- What was read, and what is left. -/
abbrev Result (α : Type) := Except Stop (α × Bytes)

/-- The fault lies with what was read last. -/
def stop {α : Type} (fault : SyntaxFault) (rest : Bytes) : Result α :=
  .error ⟨fault, rest.length⟩

/-- The fault lies with the next byte, or with the last one if there is no next. -/
def stopAt {α : Type} (fault : SyntaxFault) (rest : Bytes) : Result α :=
  .error ⟨fault, rest.length - 1⟩

def ascii (b : UInt8) : Char := Char.ofNat b.toNat

def isSpace (b : UInt8) : Bool :=
  ascii b == ' ' || ascii b == '\n' || ascii b == '\t' || ascii b == '\r'

def skipSpace (s : Bytes) : Bytes := s.dropWhile isSpace

/-! ## Words -/

def expectWord : List Char → Bytes → Result Unit
  | [], s => .ok ((), s)
  | _ :: _, [] => stop .endInValue []
  | c :: cs, b :: s => if ascii b = c then expectWord cs s else stop .expectedIdent s

/-! ## Strings -/

def hexValue? (b : UInt8) : Option Nat :=
  let c := ascii b
  if c.isDigit then some (c.toNat - '0'.toNat)
  else if 'a' ≤ c ∧ c ≤ 'f' then some (c.toNat - 'a'.toNat + 10)
  else if 'A' ≤ c ∧ c ≤ 'F' then some (c.toNat - 'A'.toNat + 10)
  else none

/-- Four hexadecimal digits. -/
def hexUnit : Bytes → Result Nat
  | a :: b :: c :: d :: s =>
    match hexValue? a, hexValue? b, hexValue? c, hexValue? d with
    | some a, some b, some c, some d => .ok (((a * 16 + b) * 16 + c) * 16 + d, s)
    | _, _, _, _ => stop .invalidEscape s
  | _ => stop .endInString []

def isLeading (n : Nat) : Bool := 0xD800 ≤ n && n ≤ 0xDBFF

def isTrailing (n : Nat) : Bool := 0xDC00 ≤ n && n ≤ 0xDFFF

/-- The second half of a surrogate pair, with its `\u`. -/
def trailingUnit (lead : Nat) : Bytes → Result Nat
  | [] => stop .endInString []
  | b :: s =>
    if ascii b ≠ '\\' then stop .endOfHexEscape s
    else
      match s with
      | [] => stop .endInString []
      | b :: s =>
        if ascii b ≠ 'u' then stop .endOfHexEscape s
        else
          match hexUnit s with
          | .error e => .error e
          | .ok (n, s) =>
            if isTrailing n then .ok ((lead - 0xD800) * 0x400 + (n - 0xDC00) + 0x10000, s)
            else stop .loneSurrogate s

/-- A code point after `\u`. -/
def unicodeEscape (s : Bytes) : Result Nat :=
  match hexUnit s with
  | .error e => .error e
  | .ok (n, s) =>
    if isTrailing n then stop .loneSurrogate s
    else if isLeading n then trailingUnit n s
    else .ok (n, s)

/-- The character that an escape stands for, after the backslash. -/
def escape : Bytes → Result Char
  | [] => stop .endInString []
  | b :: s =>
    match ascii b with
    | '"' => .ok ('"', s)
    | '\\' => .ok ('\\', s)
    | '/' => .ok ('/', s)
    | 'b' => .ok ('\x08', s)
    | 'f' => .ok ('\x0c', s)
    | 'n' => .ok ('\n', s)
    | 'r' => .ok ('\r', s)
    | 't' => .ok ('\t', s)
    | 'u' =>
      match unicodeEscape s with
      | .error e => .error e
      | .ok (n, s) => .ok (Char.ofNat n, s)
    | _ => stop .invalidEscape s

theorem hexUnit_length_lt {s t : Bytes} {n : Nat} (h : hexUnit s = .ok (n, t)) :
    t.length < s.length := by
  unfold hexUnit at h
  split at h
  · split at h
    · simp only [Except.ok.injEq, Prod.mk.injEq] at h
      obtain ⟨-, rfl⟩ := h
      simp only [List.length_cons]
      omega
    · simp [stop] at h
  · simp [stop] at h

theorem trailingUnit_length_lt {s t : Bytes} {lead n : Nat} (h : trailingUnit lead s = .ok (n, t)) :
    t.length < s.length := by
  unfold trailingUnit at h
  split at h
  · simp [stop] at h
  · split at h
    · simp [stop] at h
    · split at h
      · simp [stop] at h
      · split at h
        · simp [stop] at h
        · split at h
          · simp at h
          · next he =>
            have := hexUnit_length_lt he
            split at h
            · simp only [Except.ok.injEq, Prod.mk.injEq] at h
              obtain ⟨-, rfl⟩ := h
              simp only [List.length_cons]
              omega
            · simp [stop] at h

theorem unicodeEscape_length_lt {s t : Bytes} {n : Nat} (h : unicodeEscape s = .ok (n, t)) :
    t.length < s.length := by
  unfold unicodeEscape at h
  split at h
  · simp at h
  · next he =>
    have := hexUnit_length_lt he
    split at h
    · simp [stop] at h
    · split at h
      · have := trailingUnit_length_lt h
        omega
      · simp only [Except.ok.injEq, Prod.mk.injEq] at h
        obtain ⟨-, rfl⟩ := h
        omega

theorem escape_length_lt {s t : Bytes} {c : Char} (h : escape s = .ok (c, t)) :
    t.length < s.length := by
  unfold escape at h
  split at h
  · simp [stop] at h
  · split at h
    all_goals try
      simp only [Except.ok.injEq, Prod.mk.injEq] at h
      obtain ⟨-, rfl⟩ := h
      simp
    · split at h
      · simp at h
      · next he =>
        have := unicodeEscape_length_lt he
        simp only [Except.ok.injEq, Prod.mk.injEq] at h
        obtain ⟨-, rfl⟩ := h
        simp only [List.length_cons]
        omega
    · simp [stop] at h

/-- The bytes of a string up to its closing quote, put in reverse before `acc`. -/
def stringBytes (acc : Bytes) : Bytes → Result Bytes
  | [] => stop .endInString []
  | b :: s =>
    if ascii b = '"' then .ok (acc.reverse, s)
    else if ascii b = '\\' then
      match _h : escape s with
      | .error e => .error e
      | .ok (c, s') => stringBytes ((String.utf8EncodeChar c).reverse ++ acc) s'
    else if b < 0x20 then stop .controlCharacter s
    else stringBytes (b :: acc) s
termination_by s => s.length
decreasing_by
  · have := escape_length_lt _h
    simp only [List.length_cons]
    omega
  · simp

/-- How many bytes from `i` on are whole characters. -/
def validFrom (bytes : ByteArray) : Nat → Nat → Nat
  | 0, i => i
  | fuel + 1, i =>
    match bytes.utf8DecodeChar? i with
    | some c => validFrom bytes fuel (i + c.utf8Size)
    | none => i

/-- A string after its opening quote. -/
def stringBody (s : Bytes) : Result String :=
  match stringBytes [] s with
  | .error e => .error e
  | .ok (bytes, rest) =>
    match String.fromUTF8? ⟨bytes.toArray⟩ with
    | some text => .ok (text, rest)
    | none =>
      -- The place is counted back from the end of the string, by one for each byte of its text.
      let bad := bytes.length - validFrom ⟨bytes.toArray⟩ bytes.length 0
      .error ⟨.invalidCodePoint, rest.length + bad⟩

/-! ## Numbers -/

def isDigit (b : UInt8) : Bool := (ascii b).isDigit

def digitValue (b : UInt8) : Nat := b.toNat - '0'.toNat

/-- The significant digits that fit a word, and how many more there were. -/
structure Significand where
  value : Nat
  dropped : Nat

def Significand.push (m : Significand) (digit : UInt8) : Significand :=
  let next := m.value * 10 + digitValue digit
  if m.dropped = 0 ∧ next < 0x10000000000000000 then ⟨next, 0⟩ else ⟨m.value, m.dropped + 1⟩

def Significand.read (start : Nat) (digits : Bytes) : Significand :=
  digits.foldl Significand.push ⟨start, 0⟩

def powerOfTen (k : Nat) : Float := Float.ofScientific 1 false k

/-- `f / 10 ^ k`, in steps that a double can hold. -/
def scaleDown (f : Float) (k : Nat) : Float :=
  if k ≤ 308 then f / powerOfTen k
  else if f == 0 then f
  else scaleDown (f / powerOfTen 308) (k - 308)
termination_by k

/-- `m * 10 ^ exponent` as a double, if one is near. -/
def scaled? (m : Nat) (exponent : Int) : Option Float :=
  let f := Float.ofNat m
  if exponent < 0 then some (scaleDown f exponent.natAbs)
  else if exponent ≤ 308 then
    let g := f * powerOfTen exponent.toNat
    if g.isInf then none else some g
  else if f == 0 then some f
  else none

def realNumber (positive : Bool) (m : Nat) (exponent : Int) (rest : Bytes) : Result Number :=
  match scaled? m exponent with
  | some f => .ok (.real (if positive then f else -f).toBits, rest)
  | none => stop .numberOutOfRange rest

/-- The digits of an exponent. One that passes `2 ^ 31` ends the number: it is zero or too large. -/
def exponentDigits (positive : Bool) (m : Nat) (start : Int) (up : Bool) (e : Nat) :
    Bytes → Result Number
  | b :: s =>
    if isDigit b then
      let next := e * 10 + digitValue b
      if next < 0x80000000 then exponentDigits positive m start up next s
      else if m ≠ 0 ∧ up then stop .numberOutOfRange s
      else .ok (.real (if positive then (0.0 : Float) else -0.0).toBits, s.dropWhile isDigit)
    else realNumber positive m (if up then start + e else start - e) (b :: s)
  | [] => realNumber positive m (if up then start + e else start - e) []

/-- An exponent, after the `e`. -/
def exponentPart (positive : Bool) (m : Nat) (start : Int) (s : Bytes) : Result Number :=
  let (up, s) :=
    match s with
    | b :: r => if ascii b = '+' then (true, r) else if ascii b = '-' then (false, r) else (true, s)
    | [] => (true, s)
  match s with
  | [] => stop .endInValue []
  | b :: r =>
    if isDigit b then exponentDigits positive m start up (digitValue b) r else stop .invalidNumber r

def isExponentMark (b : UInt8) : Bool := ascii b == 'e' || ascii b == 'E'

/-- Decimal places, after the point. -/
def decimalPart (positive : Bool) (m : Nat) (before : Nat) (s : Bytes) : Result Number :=
  let digits := s.takeWhile isDigit
  let rest := s.dropWhile isDigit
  let read := Significand.read m digits
  let exponent := Int.ofNat before - Int.ofNat (digits.length - read.dropped)
  match digits, rest with
  | [], [] => stopAt .endInValue []
  | [], b :: r => stopAt .invalidNumber (b :: r)
  | _, [] => realNumber positive read.value exponent []
  | _, b :: r =>
    if isExponentMark b then exponentPart positive read.value exponent r
    else realNumber positive read.value exponent (b :: r)

/-- What follows the whole part `m`, which stands for `m * 10 ^ dropped`. -/
def afterWhole (positive : Bool) (m : Significand) (s : Bytes) : Result Number :=
  let plain : Result Number :=
    if m.dropped ≠ 0 then realNumber positive m.value m.dropped s
    else if positive then .ok (.nat m.value, s)
    else if 0 < m.value ∧ m.value ≤ 0x8000000000000000 then .ok (.neg m.value, s)
    else .ok (.real (-(Float.ofNat m.value)).toBits, s)
  match s with
  | [] => plain
  | b :: r =>
    if ascii b = '.' then decimalPart positive m.value m.dropped r
    else if isExponentMark b then exponentPart positive m.value m.dropped r
    else plain

/-- A number after its sign. -/
def number (positive : Bool) : Bytes → Result Number
  | [] => stop .endInValue []
  | b :: s =>
    if ascii b = '0' then
      match s with
      | c :: _ => if isDigit c then stopAt .invalidNumber s else afterWhole positive ⟨0, 0⟩ s
      | [] => afterWhole positive ⟨0, 0⟩ s
    else if isDigit b then
      afterWhole positive (Significand.read (digitValue b) (s.takeWhile isDigit))
        (s.dropWhile isDigit)
    else stop .invalidNumber s

/-! ## Lists and objects

The items are read by `item`, one level deeper. `fuel` is at least the number of bytes that are
left, so it bounds the number of items.
-/

/-- The items after the first place where one may stand, in reverse before `acc`. -/
def listItems (item : Bytes → Result Json) : Nat → List Json → Bytes → Result (List Json)
  | 0, _, s => stop .endInList s
  | fuel + 1, acc, s =>
    match item s with
    | .error e => .error e
    | .ok (v, s) =>
      match skipSpace s with
      | [] => stopAt .endInList []
      | b :: r =>
        if ascii b = ']' then .ok ((v :: acc).reverse, r)
        else if ascii b = ',' then
          match skipSpace r with
          | [] => stopAt .endInValue []
          | c :: r' =>
            if ascii c = ']' then stopAt .trailingComma (c :: r')
            else listItems item fuel (v :: acc) (c :: r')
        else stopAt .expectedCommaOrBracket (b :: r)

/-- A list after its opening bracket. -/
def list (item : Bytes → Result Json) (fuel : Nat) (s : Bytes) : Result (List Json) :=
  match skipSpace s with
  | [] => stopAt .endInList []
  | b :: r => if ascii b = ']' then .ok ([], r) else listItems item fuel [] (b :: r)

/-- A colon and the value after it. -/
def memberValue (item : Bytes → Result Json) (s : Bytes) : Result Json :=
  match skipSpace s with
  | [] => stopAt .endInObject []
  | b :: r => if ascii b = ':' then item r else stopAt .expectedColon (b :: r)

/-- The members from the opening quote of a key on, in reverse before `acc`. -/
def objectMembers (item : Bytes → Result Json) :
    Nat → List (String × Json) → Bytes → Result (List (String × Json))
  | 0, _, s => stop .endInObject s
  | fuel + 1, acc, s =>
    match stringBody (s.drop 1) with
    | .error e => .error e
    | .ok (key, s) =>
      match memberValue item s with
      | .error e => .error e
      | .ok (v, s) =>
        match skipSpace s with
        | [] => stopAt .endInObject []
        | b :: r =>
          if ascii b = '\x7d' then .ok (((key, v) :: acc).reverse, r)
          else if ascii b = ',' then
            match skipSpace r with
            | [] => stopAt .endInValue []
            | c :: r' =>
              if ascii c = '"' then objectMembers item fuel ((key, v) :: acc) (c :: r')
              else if ascii c = '\x7d' then stopAt .trailingComma (c :: r')
              else stopAt .keyMustBeString (c :: r')
          else stopAt .expectedCommaOrBrace (b :: r)

/-- An object after its opening brace. -/
def object (item : Bytes → Result Json) (fuel : Nat) (s : Bytes) :
    Result (List (String × Json)) :=
  match skipSpace s with
  | [] => stopAt .endInObject []
  | b :: r =>
    if ascii b = '\x7d' then .ok ([], r)
    else if ascii b = '"' then objectMembers item fuel [] (b :: r)
    else stopAt .keyMustBeString (b :: r)

/-! ## Values -/

def scalar (b : UInt8) (s : Bytes) : Result Json :=
  match ascii b with
  | 'n' => (expectWord ['u', 'l', 'l'] s).map fun r => (.null, r.2)
  | 't' => (expectWord ['r', 'u', 'e'] s).map fun r => (.bool true, r.2)
  | 'f' => (expectWord ['a', 'l', 's', 'e'] s).map fun r => (.bool false, r.2)
  | '-' => (number false s).map fun r => (.number r.1, r.2)
  | '"' => (stringBody s).map fun r => (.string r.1, r.2)
  | _ =>
    if isDigit b then (number true (b :: s)).map fun r => (.number r.1, r.2)
    else stopAt .expectedValue (b :: s)

/-- A value that opens fewer than `depth` lists and objects inside one another. -/
def value (fuel : Nat) : Nat → Bytes → Result Json
  | 0, s => stopAt .tooDeep s
  | depth + 1, s =>
    match skipSpace s with
    | [] => stopAt .endInValue []
    | b :: r =>
      if ascii b = '[' then
        if depth = 0 then stopAt .tooDeep (b :: r)
        else (list (value fuel depth) fuel r).map fun p => (.array p.1, p.2)
      else if ascii b = '\x7b' then
        if depth = 0 then stopAt .tooDeep (b :: r)
        else (object (value fuel depth) fuel r).map fun p => (.object (sortMembers p.1), p.2)
      else scalar b r

/-! ## Whole texts -/

/-- The deepest nesting that is still refused. -/
def depthLimit : Nat := 128

/-- One value with nothing but space around it. -/
def readAll (depth : Nat) (s : Bytes) : Except Stop Json :=
  match value s.length depth s with
  | .error e => .error e
  | .ok (v, rest) =>
    match skipSpace rest with
    | [] => .ok v
    | b :: r => .error ⟨.trailingCharacters, (b :: r).length - 1⟩

/-- The line, counted from 1, and the column after `n` bytes. -/
def position (s : Bytes) (n : Nat) : Nat × Nat :=
  let before := s.take n
  let column := (before.reverse.takeWhile fun b => ascii b != '\n').length
  (1 + before.count '\n'.toUInt8, column)

def located (s : Bytes) (message : String) (left : Nat) : String :=
  let (line, column) := position s (s.length - left)
  Placed.message ⟨message, line, column⟩

end Reader

/-- A value, or the message of the first fault. -/
def parse (s : List UInt8) : Except String Json :=
  (Reader.readAll Reader.depthLimit s).mapError fun e => Reader.located s e.fault.message e.left

end RpcScaffold.Json
