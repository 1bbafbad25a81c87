/-!
# Paths

A path is a text of parts between slashes. An empty part and a part of one dot do not lead
anywhere, except that a leading slash leads to the root.
-/

namespace SessionKit.Path

def isAbsolute (path : String) : Bool := path.toList.head? = some '/'

def endsInSlash (path : String) : Bool := path.toList.getLast? = some '/'

/-- A name inside of a directory. The empty directory is where the program runs. -/
def join (directory name : String) : String :=
  if directory.isEmpty ∨ endsInSlash directory then directory ++ name
  else directory ++ "/" ++ name

/-- The texts between the slashes. -/
def parts : List Char → List (List Char)
  | [] => [[]]
  | c :: rest =>
    if c = '/' then [] :: parts rest
    else match parts rest with
      | [] => [[c]]
      | part :: more => (c :: part) :: more

def isIdle (part : List Char) : Bool := part = [] || part = ['.']

/-- The parts that are not empty. -/
def names (path : String) : List String :=
  ((parts path.toList).filter (· ≠ [])).map String.ofList

/-- The parts that lead somewhere. -/
def steps (path : String) : List String :=
  ((parts path.toList).filter (!isIdle ·)).map String.ofList

/-- Drops idle parts from the end, the last part first; a leading part stays. -/
def dropIdle : List (List Char) → List (List Char)
  | part :: below :: rest =>
    if isIdle part then dropIdle (below :: rest) else part :: below :: rest
  | parts => parts

/-- The text of parts, the last one first. -/
def ofReversed (parts : List (List Char)) : String :=
  "/".intercalate (parts.reverse.map String.ofList)

/-- The path without its last step; nothing for the root and for the empty path. -/
def parent? (path : String) : Option String :=
  match dropIdle (parts path.toList).reverse with
  | [] => none
  | [[]] => none
  | [_] => some ""
  | _ :: below =>
    match dropIdle below with
    | [[]] => some "/"
    | parts => some (ofReversed parts)

end SessionKit.Path
