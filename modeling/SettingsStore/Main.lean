import SettingsStore.Cli.Run

/-!
# The program

Runs a command on the files that it names. They are brought together on a disk of their own, and
what the command changed there is written back. Databases exist only in memory.
-/

namespace SettingsStore

/-- The files that a command line names. -/
def Cli.filesOf (env : Environment) (args : List String) : List String :=
  match Cli.parse env args with
  | .run i =>
    let store := match Dsn.parse i.store with
      | .ok (.file path) => [path]
      | _ => []
    match i.command with
    | .set patch => patch :: store
    | .validate file => [file]
    | _ => store
  | _ => []

/-- The variables that matter to the program. -/
def Cli.variables : List String :=
  Cli.storeVariable :: Leaf.all.map (·.variableName Options.defaultLead)

/-- Hexadecimal digits of bytes, two for each. -/
def hexText (bs : List UInt8) : String :=
  String.join (bs.map fun b =>
    let digits := Text.hex b.toNat
    if digits.length = 1 then "0" ++ digits else digits)

namespace Program

def environment : IO Environment := do
  let mut env : Environment := []
  for name in Cli.variables do
    if let some value ← IO.getEnv name then env := (name, value) :: env
  return env

/-- Makes the directories on the way to a path, as far as they exist. -/
def makeDirectories (path : String) (disk : Disk) : IO Disk := do
  let mut disk := disk
  let mut place := ""
  for name in Path.names (Path.parent path) do
    place := place ++ "/" ++ name
    match ← (IO.FS.realPath (place ++ "/.")).toBaseIO with
    | .ok _ => disk := (disk.makeDirectory place).toOption.getD disk
    | .error _ => break
  return disk

/-- A disk with the files at some paths and the directories on the way to them. -/
def disk (home : String) (paths : List String) : IO Disk := do
  let mut disk := Disk.ofHome home
  for path in paths do
    let full := Path.join home path
    disk ← makeDirectories full disk
    if let .ok bytes ← (IO.FS.readBinFile full).toBaseIO then
      disk := (disk.write full bytes).toOption.getD disk
  return disk

/-- Writes the files that changed. -/
def writeBack (home : String) (paths : List String) (before after : Disk) : IO Unit := do
  for path in paths do
    let full := Path.join home path
    match before.read full, after.read full with
    | .ok old, .ok new => if old != new then IO.FS.writeBinFile full new
    | .error _, .ok new => IO.FS.writeBinFile full new
    | _, .error _ => pure ()

def ids : IO Cli.Ids := do
  let mut made : List String := []
  for _ in List.range 5 do
    made := hexText (← IO.getRandomBytes 16).data.toList :: made
  return fun n => made.getD n ""

end Program

end SettingsStore

open SettingsStore in
def main (args : List String) : IO UInt32 := do
  let env ← Program.environment
  let home := (← IO.currentDir).toString
  let paths := Cli.filesOf env args
  let before ← Program.disk home paths
  let report := Cli.run (← Program.ids) args env before
  Program.writeBack home paths before report.disk
  IO.print report.output
  IO.eprint report.errors
  return UInt32.ofNat report.code
