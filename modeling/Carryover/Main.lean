/-
# The command line

The working folder is read into a tree, a program runs on the tree, and what the run left
behind is written back and printed.  With `outline` as the first argument the outline program
runs, otherwise the generator.
-/
import Carryover.Program.Generator
import Carryover.Program.Outline

namespace Carryover.Program

open Files

/-- The tree with the entries of a folder, and all below them. -/
partial def readEntries {base : List String} (l : Location base)
    (entries : Array IO.FS.DirEntry) (t : Tree base) : IO (Tree base) := do
  let mut t := t
  for entry in entries do
    let here := l.enter entry.fileName
    if ← entry.path.isDir then
      t ← readEntries here (← entry.path.readDir) (t.insert here .folder)
    else
      let bytes ← IO.FS.readBinFile entry.path
      t := t.insert here (.file bytes.data.toList)
  return t

/-- Makes the folders of the tree, and writes the files that a run wrote. -/
def writeBack {base : List String} (r : Report base) : IO Unit := do
  for (l, e) in r.files.entries do
    if e = .folder then IO.FS.createDirAll l.path.text
  for l in r.written do
    match r.files.get? l with
    | some (.file bytes) =>
      IO.FS.writeBinFile l.path.text (ByteArray.mk bytes.toArray)
    | _ => pure ()

/-- Prints what a run printed. -/
def printReport {base : List String} (r : Report base) : IO Unit := do
  for s in r.stdout do
    IO.println s
  for notice in r.stderr do
    match notice with
    | .text s => IO.eprintln s
    | .log e => IO.eprintln e.line

/-- Runs a program in the working folder. -/
def runHere (args : List String) : IO UInt32 := do
  let root ← IO.currentDir
  let base := (Text.cutAt '/' root.toString).filter (· ≠ "")
  let t : Tree base ← readEntries .work (← root.readDir) .empty
  let r :=
    match args with
    | "outline" :: rest => runOutline rest t
    | _ => runGenerator args t
  if r.exit ≠ 2 then writeBack r
  printReport r
  return UInt32.ofNat r.exit

end Carryover.Program

/-- The program. -/
def main (args : List String) : IO UInt32 :=
  Carryover.Program.runHere args
