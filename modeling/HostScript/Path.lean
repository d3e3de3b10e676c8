/-!
# Paths as text

A path is a text whose parts are separated by `/`. Joining and the change of an extension work on the
text alone; no file is looked at. The last name of a path is found behind any number of closing `/` and
`/.`, and `..` is no name.
-/
namespace HostScript.Path

/-- Puts a file below a folder. An absolute file stands for itself; otherwise a `/` is added exactly
when the folder is not empty and does not end in one. -/
def joinChars (dir file : List Char) : List Char :=
  if file.head? = some '/' then file
  else if dir.isEmpty || dir.getLast? = some '/' then dir ++ file
  else dir ++ '/' :: file

/-- Puts a file below a folder. -/
def join (dir file : String) : String := String.ofList (joinChars dir.toList file.toList)

/-- Cuts closing `/` and `/.` off a text that is given from its end to its start. -/
def dropClosing : List Char → List Char
  | '/' :: cs => dropClosing cs
  | '.' :: '/' :: cs => dropClosing cs
  | cs => cs

/-- A path without a last name ends in `..`, or is `.`, or has no parts at all. Otherwise the text is
split before the name; what closes the path is dropped. -/
def splitName? (path : List Char) : Option (List Char × List Char) :=
  let backwards := dropClosing path.reverse
  let name := (backwards.takeWhile (· ≠ '/')).reverse
  if name = [] ∨ name = ['.'] ∨ name = ['.', '.'] then none
  else some ((backwards.dropWhile (· ≠ '/')).reverse, name)

/-- Splits a name at its last dot. A dot in front of everything else does not count. -/
def splitExtension (name : List Char) : List Char × Option (List Char) :=
  let extension := (name.reverse.takeWhile (· ≠ '.')).reverse
  let stem := (name.reverse.dropWhile (· ≠ '.')).drop 1
  if stem.isEmpty then (name, none) else (stem.reverse, some extension)

/-- The extension of the last name of a path. -/
def extensionChars? (path : List Char) : Option (List Char) := do
  let (_, name) ← splitName? path
  (splitExtension name).2

/-- Gives the last name of a path another extension; a path without a name stays as it is. -/
def replaceExtension (path extension : List Char) : List Char :=
  match splitName? path with
  | none => path
  | some (front, name) => front ++ (splitExtension name).1 ++ '.' :: extension

/-- Gives the last name of a path an extension. The present extension is first cut off the end of the
text, which may leave a path without a name. -/
def withExtensionChars (path extension : List Char) : List Char :=
  match extensionChars? path with
  | none => replaceExtension path extension
  | some present => replaceExtension (path.take (path.length - present.length)) extension

/-- Gives the last name of a path an extension. -/
def withExtension (path extension : String) : String :=
  String.ofList (withExtensionChars path.toList extension.toList)

/-- The parts of a path between its slashes, without the empty ones. -/
def partsFrom : List Char → List Char → List (List Char)
  | part, [] => if part.isEmpty then [] else [part.reverse]
  | part, c :: cs =>
    if c = '/' then (if part.isEmpty then partsFrom [] cs else part.reverse :: partsFrom [] cs)
    else partsFrom (c :: part) cs

/-- The parts of a path between its slashes, without the empty ones. -/
def parts (path : String) : List String := (partsFrom [] path.toList).map String.ofList

def isAbsolute (path : String) : Bool := path.toList.head? = some '/'

def endsInSlash (path : String) : Bool := path.toList.getLast? = some '/'

/-- The last name of a path, if it has one. -/
def name? (path : String) : Option String := (splitName? path.toList).map fun p => String.ofList p.2

end HostScript.Path
