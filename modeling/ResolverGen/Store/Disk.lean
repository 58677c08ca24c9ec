/-
Files in folders.

A location is the list of folders on the way to it, ending in its own name. A path is followed step
by step from a folder: `.` stays, `..` goes one folder up, and a slash in front starts at the root.
Writing a file makes the folders on its way and replaces a file that is already there.
-/
import ResolverGen.Code.Syntax

namespace ResolverGen

/-- The way from the root to a file or folder. -/
abbrev Location := List String

/-- Files with their texts, latest first, and folders. The root is always there. -/
structure Disk where
  files : List (Location × String)
  folders : List Location
deriving DecidableEq, Repr, Inhabited

/-- Why a file cannot be written. -/
inductive DiskError where
  | isFolder
  | notAFolder
  | nameTooLong
  | zeroInName
deriving DecidableEq, Repr

/-- The wording of an error. -/
def DiskError.message : DiskError → String
  | isFolder => "Is a directory (os error 21)"
  | notAFolder => "Not a directory (os error 20)"
  | nameTooLong => "File name too long (os error 36)"
  | zeroInName => "file name contained an unexpected NUL byte"

/-- The steps of a path. -/
def pathSteps (path : String) : List String := (Text.splitAt '/' path.toList).map String.ofList

/-- Takes one step from a location. -/
def Location.step (l : Location) (step : String) : Location :=
  if step = "" || step = "." then l
  else if step = ".." then l.dropLast
  else l ++ [step]

/-- Where a path that is followed from a folder starts. -/
def pathStart (folder : Location) (path : String) : Location :=
  if path.toList.head? = some '/' then [] else folder

/-- The location that a path leads to from a folder, whatever there is on the way. -/
def resolve (folder : Location) (path : String) : Location :=
  (pathSteps path).foldl Location.step (pathStart folder path)

namespace Disk

/-- A disk with nothing on it but a folder and those on the way to it. -/
def ofFolder (folder : Location) : Disk :=
  ⟨[], (List.range (folder.length + 1)).map folder.take⟩

/-- The text of the file at a location. -/
def file? (d : Disk) (l : Location) : Option String := d.files.lookup l

/-- Whether a location is a folder. -/
def isFolder (d : Disk) (l : Location) : Bool := l = [] || d.folders.contains l

/-- Follows steps, each of which has to be taken from a folder. -/
def follow? (d : Disk) : Location → List String → Option Location
  | l, [] => some l
  | l, step :: steps => if d.isFolder l then d.follow? (l.step step) steps else none

/-- Reads the file that a path leads to. -/
def read? (d : Disk) (folder : Location) (path : String) : Option String :=
  (d.follow? (pathStart folder path) (pathSteps path)).bind d.file?

/-- Makes the folder at a location unless it is there. -/
def makeFolder (d : Disk) (l : Location) : Except DiskError Disk :=
  if (d.file? l).isSome then .error .notAFolder
  else if d.isFolder l then .ok d
  else .ok { d with folders := l :: d.folders }

/-- Whether a step can be the name of a file or folder. -/
def checkName (step : String) : Except DiskError Unit :=
  if step.toList.contains '\x00' then .error .zeroInName
  else if 255 < step.utf8ByteSize then .error .nameTooLong
  else .ok ()

/-- Follows steps to a file and puts a text there, making folders on the way. -/
def put (text : String) (d : Disk) : Location → List String → Except DiskError Disk
  | l, [] =>
    if d.isFolder l then .error .isFolder else .ok { d with files := (l, text) :: d.files }
  | l, step :: steps => do
    checkName step
    let d ← d.makeFolder l
    d.put text (l.step step) steps

/-- Writes a text to the file that a path leads to. -/
def write (d : Disk) (folder : Location) (path text : String) : Except DiskError Disk :=
  d.put text (pathStart folder path) (pathSteps path)

/-- Writes the source of a unit below an output path. -/
def writeUnit (folder : Location) (out : String) (d : Disk) (u : Code.SourceUnit) :
    Except String Disk :=
  (d.write folder (Code.joinPath out u.scope.path) u.source).mapError DiskError.message

/-- The rest of a location below a folder. -/
def below? : Location → Location → Option Location
  | [], l => some l
  | _ :: _, [] => none
  | f :: fs, s :: steps => if f = s then below? fs steps else none

/-- The paths and texts of the files below a folder, each once. -/
def filesBelow (d : Disk) (folder : Location) : List (String × String) :=
  let paths := (d.files.filterMap fun (l, _) => below? folder l).eraseDups
  paths.filterMap fun l => (d.file? (folder ++ l)).map fun text => (Text.join "/" l, text)

end Disk

end ResolverGen
