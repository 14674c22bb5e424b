import FormLetter.CommandLine.Run
import FormLetter.Files.Change

/-!
# The program

Makes a document from a letter and a file of data. A letter can name pictures and other letters in
its code, so all files below the working directory take part, and so do those that the arguments
name. What the run changes about them is done at the end.
-/

namespace FormLetter

/-- The written form of a place. -/
def Place.toString : Place → String
  | [] => "."
  | "/" :: rest => "/" ++ "/".intercalate rest
  | place => "/".intercalate place

/-- The files at a place, if they can be read, and all below it as far as some depth. -/
def load (place : Place) : Nat → IO Files
  | 0 => return []
  | depth + 1 => do
    try
      let path ← IO.FS.realPath place.toString
      if ← path.isDir then
        let names := (← path.readDir).toList.map (·.fileName)
        let inside ← names.mapM fun name => load (place ++ [name]) depth
        return (place, Item.directory) :: inside.flatten
      else return [(place, .bytes (← IO.FS.readBinFile path))]
    catch _ => return []

/-- How deep below the working directory files are looked for. -/
def depthLimit : Nat := 32

/-- Adds what stands at a place and is not known yet, without what is below it: nothing has depth
zero. -/
def addPlace (files : Files) (place : Place) : IO Files := do
  if (files.at? place).isSome then return files
  else return files ++ (← load place 1)

/-- Adds what a path leads to, and the directories on the way. -/
def addPath (files : Files) (path : Path) : IO Files := do
  let places := (List.range path.parts.length).map fun count =>
    (path.parts.take (count + 1)).foldl Files.step (Files.start path)
  places.foldlM addPlace files

/-- Does what changed about the files. -/
def Change.apply : Change → IO Unit
  | .remove place .directory => IO.FS.removeDir place.toString
  | .remove place _ => IO.FS.removeFile place.toString
  | .makeDirectory place => IO.FS.createDirAll place.toString
  | .write place content => IO.FS.writeBinFile place.toString content

end FormLetter

open FormLetter in
def main (arguments : List String) : IO UInt32 := do
  let near := (← load [] depthLimit).filter fun (place, _) => !Files.isOutside place
  let files ← (arguments.map Path.ofString).foldlM addPath near
  let run := CommandLine.run files arguments
  (Change.between files run.files).forM Change.apply
  match run.ended with
  | .error fault =>
    IO.eprintln fault.message
    return 1
  | .ok ended =>
    ended.log.forM fun line => IO.eprintln line.render
    IO.print ended.output
    ended.usage.forM fun text => IO.eprint text
    return ended.exit.toUInt32
