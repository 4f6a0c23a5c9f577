import RpcScaffold.Failure
import RpcScaffold.Text.Blank

/-! # Copied sources

A source is copied into the output without its markers. A marker is an attribute or an import; it
goes on until the brackets of its lines balance, and an import also until a semicolon. Line ends and
trailing blanks are made the same for every platform.
-/

namespace RpcScaffold.SourceText

open Text

/-! ## Normal form -/

/-- `r` is the text after `c`, and whether that text starts with a line feed. A carriage return is a
line feed, or nothing in front of one. -/
def unifyBreak (c : Char) (r : List Char × Bool) : List Char × Bool :=
  if c = '\r' then if r.2 then (r.1, false) else ('\n' :: r.1, false)
  else (c :: r.1, c == '\n')

def unifyBreaks (cs : List Char) : List Char := (cs.foldr unifyBreak ([], false)).1

/-- The text without a byte-order mark at its start. -/
def dropMark : List Char → List Char
  | '\uFEFF' :: cs => cs
  | cs => cs

/-- Lines end in line feeds and have no blanks at their ends. -/
def normalizeChars (cs : List Char) : List Char :=
  join ['\n'] ((split (· == '\n') (unifyBreaks (dropMark cs))).map trimEnd)

def normalize (s : String) : String := String.ofList (normalizeChars s.toList)

/-! ## Markers -/

inductive Marker
  | attribute
  | importItem
  deriving Repr, DecidableEq

def markerAttributes : List String := ["#[grpc_model", "#[grpc_service"]

def markerImports : List String := ["use protowiz_markers", "use protowiz::"]

/-- The marker that starts on the line. -/
def markerOf? (line : List Char) : Option Marker :=
  let starts (mark : String) : Bool := mark.toList.isPrefixOf (trimStart line)
  if markerAttributes.any starts then some .attribute
  else if markerImports.any starts then some .importItem
  else none

def isOpening (c : Char) : Bool := c == '(' || c == '[' || c == '\x7b'

def isClosing (c : Char) : Bool := c == ')' || c == ']' || c == '\x7d'

/-- By how much the line opens more brackets than it closes. -/
def bracketBalance (line : List Char) : Int :=
  Int.ofNat (line.countP isOpening) - Int.ofNat (line.countP isClosing)

/-- A marker that was not closed yet, and its balance so far. -/
structure OpenMarker where
  marker : Marker
  balance : Int
  deriving Repr, DecidableEq

/-- What is left of the marker after the line. -/
def OpenMarker.after (o : OpenMarker) (line : List Char) : Option OpenMarker :=
  let balance := o.balance + bracketBalance line
  if balance ≤ 0 ∧ (o.marker = .attribute ∨ ';' ∈ line) then none else some ⟨o.marker, balance⟩

/-! ## Removal -/

structure Scan where
  /-- The lines that stay, the last one first. -/
  kept : List (List Char) := []
  opened : Option OpenMarker := none
  deriving Repr, DecidableEq

def Scan.line (s : Scan) (line : List Char) : Scan :=
  match s.opened with
  | some o => { s with opened := o.after line }
  | none =>
    match markerOf? line with
    | some m => { s with opened := OpenMarker.after ⟨m, 0⟩ line }
    | none => { s with kept := line :: s.kept }

def keptLines (lines : List (List Char)) : List (List Char) :=
  (lines.foldl Scan.line {}).kept.reverse

/-- The normal text without its markers. A final line feed stays. -/
def stripMarkersChars (cs : List Char) : List Char :=
  let text := normalizeChars cs
  let body := join ['\n'] (keptLines (lines text))
  if text.getLast? = some '\n' then body ++ ['\n'] else body

def stripMarkers (s : String) : String := String.ofList (stripMarkersChars s.toList)

/-- One mebibyte. -/
def sizeLimit : Nat := 1024 * 1024

/-- The copy of a source of at most `limit` bytes. -/
def prepare (s : String) (limit : Nat) : Except Failure String :=
  if s.utf8ByteSize > limit then
    .error (.invalidArgument
      s!"source file too large ({s.utf8ByteSize} bytes > limit {limit})")
  else .ok (stripMarkers s)

end RpcScaffold.SourceText
