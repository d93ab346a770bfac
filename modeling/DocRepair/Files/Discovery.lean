import DocRepair.Files.Disk

namespace DocRepair

/-- Whether a directory has a file of a name. -/
def Disk.hasFile (disk : Disk) (directory : Place) (name : Text) : Except SystemError Bool :=
  disk.isFile (Place.toText (directory ++ [name]))

/-- A directory and those above it, the nearest first. -/
def Place.upward (directory : Place) : List Place :=
  (List.range (directory.length + 1)).map fun n => directory.take (directory.length - n)

/-- The file that marks the root of a project. -/
def projectMarker : Text := "composer.json"

def Disk.projectRoot? (disk : Disk) (directory : Place) : Except SystemError (Option Place) :=
  directory.upward.findM? fun above => disk.hasFile above projectMarker

end DocRepair
