import RpcScaffold.Text.Letter
import RpcScaffold.Text.Split

/-! # The words of a name, and its snake and camel case

A name is cut at every character that is neither letter nor digit. Inside a piece a word ends where
a lower-case letter meets an upper-case one (`fooBar`), and before the last capital of a run that
goes on in lower case (`HTTPServer`).
-/

namespace RpcScaffold.Text

/-- The case of the last cased character of the word so far. -/
inductive Mode
  | boundary
  | lower
  | upper
  deriving Repr, DecidableEq

def Mode.after (m : Mode) (c : Char) : Mode :=
  if isLower c then .lower else if isUpper c then .upper else m

/-- `c` in front of the first word. -/
def prepend (c : Char) : List (List Char) → List (List Char)
  | [] => [[c]]
  | w :: ws => (c :: w) :: ws

/-- The rest of the current word, then the words after it. A capital that starts a word after a run
of capitals does not set the mode of its word. -/
def wordsFrom (m : Mode) : List Char → List (List Char)
  | [] => []
  | [c] => [[c]]
  | c :: d :: rest =>
    if m.after c = .lower ∧ isUpper d then [c] :: wordsFrom .boundary (d :: rest)
    else if m = .upper ∧ isUpper c ∧ isLower d then
      [] :: prepend c (wordsFrom .boundary (d :: rest))
    else prepend c (wordsFrom (m.after c) (d :: rest))

def words (cs : List Char) : List (List Char) :=
  (split (fun c => !isAlphanumeric c) cs).flatMap (wordsFrom .boundary)

/-! ## Case -/

/-- A word in lower case. A capital sigma at its end becomes a final sigma. -/
def lowerWord : List Char → List Char
  | [] => []
  | ['Σ'] => ['ς']
  | c :: rest => lowerForm c ++ lowerWord rest

def capitalWord : List Char → List Char
  | [] => []
  | c :: rest => upperForm c ++ lowerWord rest

/-- `GetPersonById` and `get person by id` both give `get_person_by_id`. -/
def snakeCase (name : String) : String :=
  String.ofList (join ['_'] ((words name.toList).map lowerWord))

/-- `get_person_by_id` gives `GetPersonById`. -/
def upperCamel (name : String) : String :=
  String.ofList ((words name.toList).flatMap capitalWord)

end RpcScaffold.Text
