import JobLedger.Command.Perform
import JobLedger.Disk.Snapshot
import JobLedger.Text.SipHash
import Std.Time.DateTime.Timestamp

/-!
# The program

The program reads its command line, takes in the files, performs the
command and gives the changed files back. All that it decides is in
`Command.ofArguments` and `Command.perform`; here is only the exchange
with the world.

A command that uses files is told on standard input which ones there are:
one address a line, with a slash at its end for a directory. What is not
listed is not there, and a listed file that cannot be read is passed over.
-/

namespace JobLedger.Program

/-- The longest names and addresses of a usual file system. -/
def limits : NameLimits := ⟨some 255, some 4095⟩

/-- The directory that the program was started in. -/
def workDir : IO Path := do
  let address := (← IO.getEnv "PWD").getD "/"
  return (Disk.components address).filter (· ≠ "")

/-- What stands at an address of the list: nothing, a file with its
content, or a directory. -/
def look (address : String) : IO (Option (Option Bytes)) := do
  if address = "" then return none
  if address.toList.getLast? = some '/' then return some none
  try return some (some (← IO.FS.readBinFile address).toList)
  catch _ => return none

/-- The tree of the listed addresses. -/
def takeIn : IO Disk := do
  let mut d := Disk.empty (← workDir) limits
  for address in ← (← IO.getStdin).lines do
    if let some content := ← look address then
      d := d.place address content
  return d

/-- A file is written beside its place first and takes its place then. -/
def perform : Disk.Change → IO Unit
  | .removeFile p => IO.FS.removeFile (Disk.addressOf p)
  | .removeDir p => IO.FS.removeDir (Disk.addressOf p)
  | .makeDir p => IO.FS.createDirAll (Disk.addressOf p)
  | .write p content => do
      let beside := Disk.addressOf (Disk.temporary p)
      IO.FS.writeBinFile beside ⟨content.toArray⟩
      IO.FS.rename beside (Disk.addressOf p)

/-- The hexadecimal form of sixteen random bytes, marked as random in its
13th and 17th digit. -/
def uniqueText (random : Bytes) : String :=
  let mark : UInt8 × Nat → UInt8
    | (b, 6) => (b &&& 0x0f) ||| 0x40
    | (b, 8) => (b &&& 0x3f) ||| 0x80
    | (b, _) => b
  Hex.text (random.zipIdx.map mark)

def surroundings : IO Surroundings := do
  let mut environment : List (String × String) := []
  for name in HistoryConfig.variableNames do
    if let some value ← IO.getEnv name then
      environment := (name, value) :: environment
  let now ← Std.Time.Timestamp.now
  return {
    environment := fun name => environment.lookup name
    now := .ofInt now.toMillisecondsSinceUnixEpoch.val
    unique := uniqueText (← IO.getRandomBytes 16).toList
    hash := SipHash.ofText }

/-- Prints a reply; its status is the exit status. -/
def print (r : Reply) : IO UInt32 := do
  IO.print r.output
  IO.eprint r.errors
  return .ofNat r.status

/-- Performs a command on the files of the world. -/
def run (c : Command) : IO Reply := do
  let before ← if c.usesDisk then takeIn else pure (.empty [] limits)
  let (reply, after) := c.perform (← surroundings) (.ofDisk before)
  for change in before.changes after.disk do
    perform change
  return reply

end JobLedger.Program

open JobLedger in
def main (args : List String) : IO UInt32 := do
  match Command.ofArguments args with
  | .ok c => Program.print (← Program.run c)
  | .error fault => Program.print (.ofUsageFault fault)
