import PromptForm.Disk.Basic
import PromptForm.Environment.Document

/-!
# Stored configurations

A configuration is loaded from a file, and a missing file stands for the empty configuration. It is saved
by writing a new file beside the old one and then moving it there, so that no reader meets half of it.
A faulty configuration is neither loaded nor saved.
-/

namespace PromptForm

/-- Why a configuration was not loaded or not saved. -/
inductive StoreFault where
  | unreadable (path : Disk.Path) (fault : DiskFault)
  | malformed (path : Disk.Path)
  | invalid (path : Disk.Path) (fault : Config.Fault)
  | refused (fault : Config.Fault)
  | noFolder (path : Disk.Path) (fault : DiskFault)
  | notWritten (path : Disk.Path) (fault : DiskFault)
  | notReplaced (path : Disk.Path) (fault : DiskFault)
deriving DecidableEq, Repr

def StoreFault.message : StoreFault → String
  | .unreadable path fault => "read " ++ path.text ++ ": " ++ fault.message
  | .malformed path => "parse " ++ path.text
  | .invalid path fault => "invalid " ++ path.text ++ ": " ++ fault.message
  | .refused fault => fault.message
  | .noFolder path fault => "create directory " ++ path.text ++ ": " ++ fault.message
  | .notWritten path fault => "write temp config " ++ path.text ++ ": " ++ fault.message
  | .notReplaced path fault => "replace config " ++ path.text ++ ": " ++ fault.message

namespace Config

/-- The file that a configuration lies in unless another one is named. -/
def defaultPath : Disk.Path := ⟨"promptree.toml"⟩

/-- The configuration in a file. -/
def load (d : Disk) (path : Disk.Path) : Except StoreFault Config :=
  -- A folder of that name is there as well, and cannot be read.
  if d.has path then
    match d.read path with
    | .error fault => .error (.unreadable path fault)
    | .ok text =>
      match ofText? text with
      | none => .error (.malformed path)
      | some c =>
        match c.fault? with
        | some fault => .error (.invalid path fault)
        | none => .ok c
  else .ok {}

/-- The new file beside the old one. -/
def draftPath (path : Disk.Path) : Disk.Path := path.withExtension "toml.tmp"

/-- The disk with the folder of a file. -/
def withFolder (d : Disk) (path : Disk.Path) : Except StoreFault Disk :=
  match path.folder? with
  | none => .ok d
  | some folder => (d.makeFolders folder).mapError (.noFolder folder)

/-- Saves a configuration in a file: the disk after it, and whether it worked. -/
def save (c : Config) (d : Disk) (path : Disk.Path) : Disk × Except StoreFault Unit :=
  match c.fault? with
  | some fault => (d, .error (.refused fault))
  | none =>
    match withFolder d path with
    | .error fault => (d, .error fault)
    | .ok d =>
      match d.write (draftPath path) c.toText with
      | .error fault => (d, .error (.notWritten (draftPath path) fault))
      | .ok d =>
        match d.move (draftPath path) path with
        | .error fault => (d, .error (.notReplaced path fault))
        | .ok d => (d, .ok ())

end Config
end PromptForm
