import PromptForm.Disk.Path

/-!
# Disks

The files of a machine as a value: each file's text by its place. A folder is there when something lies
in it or when it was made. A path leads from folder to folder, so all that lie on its way have to be
there, also those that it leaves again. Every operation gives the fault that stops it.
-/

namespace PromptForm

/-- Why a file operation fails. -/
inductive DiskFault where
  | missing
  /-- There is a file where a new folder should be. -/
  | occupied
  /-- There is a file where a path needs a folder. -/
  | notFolder
  /-- There is a folder where a file is needed. -/
  | isFolder
  /-- A file cannot be moved to where a step back or on the spot leads. -/
  | busy
deriving DecidableEq, Repr

def DiskFault.message : DiskFault → String
  | .missing => "No such file or directory (os error 2)"
  | .occupied => "File exists (os error 17)"
  | .notFolder => "Not a directory (os error 20)"
  | .isFolder => "Is a directory (os error 21)"
  | .busy => "Device or resource busy (os error 16)"

structure Disk where
  files : List (Disk.Place × String) := []
  /-- Folders that are there even if nothing lies in them. -/
  folders : List Disk.Place := []
deriving DecidableEq

namespace Disk

/-- The text of the file at a place. -/
def text? (d : Disk) (p : Place) : Option String := d.files.lookup p

/-- Puts a text at a place, instead of the one that was there. -/
def put (d : Disk) (p : Place) (text : String) : Disk :=
  { d with files := (p, text) :: d.files.filter fun f => f.1 != p }

/-- Takes the file at a place away. -/
def drop (d : Disk) (p : Place) : Disk := { d with files := d.files.filter fun f => f.1 != p }

/-- Whether a place is the root, the working folder or one above it, a folder that was made, or on the
    way to something. -/
def isFolder (d : Disk) (p : Place) : Bool :=
  p.all (· == "..") || p == ["/"] || d.folders.any (p.isPrefixOf ·) ||
    d.files.any fun f => p.isPrefixOf f.1 && f.1 != p

/-- Goes one step on, to a folder. -/
def enter (d : Disk) (p : Place) (name : String) : Except DiskFault Place :=
  let next := Path.step p name
  if d.isFolder next then .ok next
  else if (d.text? next).isSome then .error .notFolder
  else .error .missing

/-- Goes the way of a path. -/
def follow (d : Disk) (path : Path) : Except DiskFault Place := path.way.foldlM d.enter path.start

/-- The text of a file. -/
def read (d : Disk) (path : Path) : Except DiskFault String :=
  if path.text = "" then .error .missing
  else
    match d.follow path with
    | .error fault => .error fault
    | .ok _ =>
      match d.text? path.place with
      | some text => if path.meansFolder then .error .notFolder else .ok text
      | none => .error (if d.isFolder path.place then .isFolder else .missing)

/-- Whether there is a file or a folder. -/
def has (d : Disk) (path : Path) : Bool :=
  match d.read path with
  | .ok _ | .error .isFolder => true
  | .error _ => false

/-- Makes the folder at the end of some names, unless it is there. -/
def makeFolder (d : Disk) (start : Place) (way : List String) (name : String) : Except DiskFault Disk := do
  let next := Path.step (← way.foldlM d.enter start) name
  if d.isFolder next then .ok d
  else if (d.text? next).isSome then .error .occupied
  else .ok { d with folders := next :: d.folders }

/-- Makes the folder at the end of some names, the last one first. If one on the way to it is missing,
    that one is made before. -/
def makeBackwards (d : Disk) (start : Place) : List String → Except DiskFault Disk
  | [] => .ok d
  | name :: way =>
    match d.makeFolder start way.reverse name with
    | .error .missing => (makeBackwards d start way).bind fun d => d.makeFolder start way.reverse name
    | result => result

/-- Makes a folder and those on the way to it, as far as they are not there. -/
def makeFolders (d : Disk) (path : Path) : Except DiskFault Disk := d.makeBackwards path.start path.backwards

/-- Writes a text into a file, which need not be there, in a folder that is. -/
def write (d : Disk) (path : Path) (text : String) : Except DiskFault Disk :=
  if path.text = "" then .error .missing
  else
    match d.follow path with
    | .error fault => .error fault
    | .ok _ => if path.meansFolder || d.isFolder path.place then .error .isFolder else .ok (d.put path.place text)

/-- Moves a file to another path, in place of a file that may be there. -/
def move (d : Disk) (source target : Path) : Except DiskFault Disk := do
  let text ← d.read source
  let _ ← d.follow target
  if target.endsInStep then .error .busy
  else if target.meansFolder then .error .notFolder
  else if d.isFolder target.place then .error .isFolder
  else .ok ((d.drop source.place).put target.place text)

end Disk
end PromptForm
