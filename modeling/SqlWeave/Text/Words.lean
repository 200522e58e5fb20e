import SqlWeave.Text.Alphanumeric
import SqlWeave.Text.Case

/-!
# Words of an identifier

An identifier is split into words at the characters that are neither letters nor numbers, between
a lower-case letter and an upper-case one, and before the last capital of a run of capitals that a
lower-case letter follows.  Characters without case, such as digits, continue the case before
them.  The words are then joined again in another style.
-/

namespace SqlWeave.Text

/-- The case of the last cased letter of the word being read. -/
inductive WordCase where
  | none | lower | upper
  deriving DecidableEq

/-- The case after one more character. -/
def WordCase.next (mode : WordCase) (c : Char) : WordCase :=
  if isLower c then .lower else if isUpper c then .upper else mode

/-- Split a text without separators into words.  `word` is the word being read, backwards. -/
def splitCases (mode : WordCase) (word : List Char) : List Char → List (List Char)
  | [] => if word.isEmpty then [] else [word.reverse]
  | [c] => [(c :: word).reverse]
  | c :: d :: rest =>
    if mode.next c = .lower ∧ isUpper d then
      (c :: word).reverse :: splitCases .none [] (d :: rest)
    else if mode = .upper ∧ isUpper c ∧ isLower d then
      word.reverse :: splitCases .none [c] (d :: rest)
    else splitCases (mode.next c) (c :: word) (d :: rest)

/-- The maximal parts of a text without separators; `part` is the part being read, backwards. -/
def parts (part : List Char) : List Char → List (List Char)
  | [] => [part.reverse]
  | c :: rest => if isAlphanumeric c then parts (c :: part) rest else part.reverse :: parts [] rest

/-- The words of an identifier. -/
def words (s : String) : List (List Char) :=
  (parts [] s.toList).flatMap (splitCases .none [])

/-- A word in lower case.  A sigma at its end takes the final form. -/
def lowerWord : List Char → List Char
  | [] => []
  | [c] => if c = 'Σ' then ['ς'] else toLower c
  | c :: rest => toLower c ++ lowerWord rest

def upperWord (word : List Char) : List Char := word.flatMap toUpper

/-- A word with a capital at its start. -/
def capitalWord : List Char → List Char
  | [] => []
  | c :: rest => toUpper c ++ lowerWord rest

/-- Words joined by underscores. -/
def underscored : List (List Char) → List Char
  | [] => []
  | [word] => word
  | word :: rest => word ++ '_' :: underscored rest

/-- The identifier in `snake_case`. -/
def snakeCase (s : String) : String := String.ofList (underscored ((words s).map lowerWord))

/-- The identifier in `SHOUTING_SNAKE_CASE`. -/
def shoutingCase (s : String) : String := String.ofList (underscored ((words s).map upperWord))

/-- Words joined in `camelCase`. -/
def camelWords : List (List Char) → List Char
  | [] => []
  | word :: rest => lowerWord word ++ rest.flatMap capitalWord

/-- The identifier in `camelCase`. -/
def camelCase (s : String) : String := String.ofList (camelWords (words s))

end SqlWeave.Text
