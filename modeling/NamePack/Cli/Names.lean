import NamePack.Text.Utf8

/-!
# Lists of names

Names are read one a line. A line ends at a line feed, with one carriage return before it; carriage
returns at the end of a name are dropped, and so are empty names. The standard input is cut into lines
before its bytes are read as text, a file after.
-/
namespace NamePack.Cli

/-- Why content cannot be read. -/
inductive ReadError where
  | notFound
  | isDirectory
  | notText
  /-- Any other cause, in the words of the system. -/
  | other (message : String)
  deriving DecidableEq, Repr

def ReadError.message : ReadError → String
  | .notFound => "No such file or directory (os error 2)"
  | .isDirectory => "Is a directory (os error 21)"
  | .notText => "stream did not contain valid UTF-8"
  | .other message => message

namespace Names

/-- The pieces of a list between the members equal to `mark`. -/
def pieces {α : Type} [DecidableEq α] (mark : α) (xs : List α) : List (List α) :=
  xs.foldr (fun x done =>
    match done with
    | first :: rest => if x = mark then [] :: first :: rest else (x :: first) :: rest
    | [] => [[x]]) [[]]

/-- A line without one carriage return at its end. -/
def dropReturn {α : Type} [DecidableEq α] (ret : α) (line : List α) : List α :=
  if line.getLast? = some ret then line.dropLast else line

/-- The lines of a list. What follows the last line feed is a line of its own, unless it is empty, and
    keeps its carriage return. -/
def lines {α : Type} [DecidableEq α] (feed ret : α) (xs : List α) : List (List α) :=
  let ps := pieces feed xs
  let final := ps.getLast?.getD []
  ps.dropLast.map (dropReturn ret) ++ if final.isEmpty then [] else [final]

/-- A line without the carriage returns at its end. -/
def dropReturns (line : List Char) : List Char :=
  (line.reverse.dropWhile (· = '\r')).reverse

def ofText (cs : List Char) : List String :=
  ((lines '\n' '\r' cs).map dropReturns |>.filter (! ·.isEmpty)).map String.ofList

def textOf (bytes : Bytes) : Except ReadError (List Char) :=
  match Text.ofUtf8? bytes with
  | some text => .ok text.toList
  | none => .error .notText

def ofFile (content : Bytes) : Except ReadError (List String) := (textOf content).map ofText

/-- The names in the standard input: each line is read as text, and the lines are joined again. -/
def ofStandardInput (content : Bytes) : Except ReadError (List String) := do
  let texts ← (lines 10 13 content).mapM textOf
  return ofText (List.intercalate ['\n'] texts)

end Names
end NamePack.Cli
