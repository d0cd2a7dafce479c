import PropertyStore.Properties

namespace PropertyStore.Document

def dropReturn (line : List Char) : List Char :=
  if line.getLast? = some '\r' then line.dropLast else line

/-- The lines of a comment. LF and CR LF end a line; a text that ends there has no further
empty line, and a lone CR is an ordinary character. -/
def commentLines (comment : List Char) : List (List Char) :=
  let parts := comment.splitOn '\n'
  let ended := parts.dropLast.map dropReturn
  match parts.getLast? with
  | none | some [] => ended
  | some last => ended ++ [last]

/-- A line that is read as a comment. -/
def headerLine (text : List Char) : List Char := '#' :: text ++ ['\n']

/-- The comment, line by line, and the time stamp. -/
def header (comment : Option String) (stamp : String) : List Char :=
  let commented := match comment with
    | none => []
    | some text => (commentLines text.toList).flatMap headerLine
  commented ++ headerLine stamp.toList

def entryLine (entry : Entry) : List Char :=
  escapeKey entry.1.toList ++ '=' :: escapeValue entry.2.toList ++ ['\n']

/-- The text of a property file that holds `properties`; `stamp` says when it was written. -/
def print (properties : Properties) (comment : Option String) (stamp : String) : String :=
  String.ofList (header comment stamp ++ properties.toList.flatMap entryLine)

end PropertyStore.Document
