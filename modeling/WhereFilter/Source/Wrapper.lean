/-
Record files that are scripts: the array of records is assigned to a variable. From such a text only
the array is wanted; any other text is left as it is.
-/
import WhereFilter.Text.Blank

namespace WhereFilter.Source

/-- The words by which an assignment starts. -/
def assignmentWords : List (List Char) :=
  [['v', 'a', 'r'], ['l', 'e', 't'], ['c', 'o', 'n', 's', 't']]

/-- Whether a text starts with the word and a blank behind it. -/
def startsWithWord (text word : List Char) : Bool :=
  word.isPrefixOf text && (text.drop word.length).head?.any Text.isBlank

/-- Whether a text with no blanks at its start is an assignment. -/
def isAssignment (text : List Char) : Bool := assignmentWords.any (startsWithWord text)

/-- The text from the first opening bracket on. -/
def fromOpening (text : List Char) : List Char := text.dropWhile (· != '[')

/-- The text up to the last closing bracket. -/
def upToClosing (text : List Char) : List Char := (text.reverse.dropWhile (· != ']')).reverse

/-- The text without a wrapper. An assignment has to hold an array: an opening bracket, and a
closing one somewhere behind it. -/
def unwrap? (text : List Char) : Option (List Char) :=
  let body := Text.trimStart text
  if isAssignment body then
    match upToClosing (fromOpening body) with
    | [] => none
    | array => some array
  else some text

end WhereFilter.Source
