import Casebook.Disk.Path

/-!
# Names below the mount root

The checker sees the stub files of a provider as files below one folder, the mount root.
`stubName?` turns a path back into the name that the provider knows.
-/

namespace Casebook.Mount

/-- Where stub files are mounted unless another root is chosen. -/
def defaultRoot : String := "/__typesnap__"

/-- The name of a path below the root, the empty name for the root itself, and nothing for
any other path. Root and path are compared in their normal forms. -/
def stubName? (root path : Text) : Option Text :=
  let root := Disk.normalise root
  let path := Disk.normalise path
  if path = root then some "" else Text.after? (root ++ "/") path

end Casebook.Mount
