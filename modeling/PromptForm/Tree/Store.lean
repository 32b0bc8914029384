import PromptForm.Disk.Basic
import PromptForm.Tree.Wire

/-!
# Stored trees

A tree is loaded from a file of data text.
-/

namespace PromptForm

/-- Why a tree was not loaded. -/
inductive TreeFault where
  | unreadable (path : Disk.Path) (fault : DiskFault)
  | unfit (path : Disk.Path) (fault : Node.FileFault)
deriving DecidableEq

def TreeFault.message : TreeFault → String
  | .unreadable path fault => "read tree " ++ path.text ++ ": " ++ fault.message
  | .unfit path fault => "load tree " ++ path.text ++ ": " ++ fault.message

/-- The tree in a file. -/
def Node.load (d : Disk) (path : Disk.Path) : Except TreeFault Node :=
  match d.read path with
  | .error fault => .error (.unreadable path fault)
  | .ok contents => (Node.ofText contents).mapError (.unfit path)

end PromptForm
