/-
  AccessControl/Main.lean
  =======================
  **The program on a real machine.**

  Here the program meets the file system, the standard streams, the clocks and a source
  of random bytes.  It decides nothing.

  ## Main definitions

  * `fileEntry`: what is found under a path in the file system;
  * `machine`: what the program finds on the machine;
  * `main`: the program.
-/
import AccessControl.CommandLine.Program
import AccessControl.Identity.Drawn
import AccessControl.Session.Nonce
import Std.Time.DateTime.Timestamp

namespace AccessControl.CommandLine

/-- What is found under a path in the file system. -/
def fileEntry (path : String) : IO FileEntry := do
  try
    let bytes ← IO.FS.readBinFile path
    return .file bytes.data.toList
  catch
    | .noFileOrDirectory .. => return .nothing
    | .inappropriateType _ code _ => return if code == 21 then .folder else .behindFile
    | fault => return .unreadable (toString fault)

/-- The bytes of a stream up to the end of a line, after those that were read already, the
    last one first. -/
partial def lineBytes (stream : IO.FS.Stream) (read : List UInt8) : IO (List UInt8) := do
  match (← stream.read 1).data.toList with
  | [] => return read.reverse
  | b :: _ => if b == 10 then return read.reverse else lineBytes stream (b :: read)

def moment : IO Moment := do
  let date ← Std.Time.Timestamp.now
  return ⟨⟨Int64.ofInt date.toMillisecondsSinceUnixEpoch.val⟩, ⟨← IO.monoNanosNow⟩⟩

/-- What the program finds on the machine. -/
def machine : IO (Surroundings IO) := do
  let clock ← Std.Time.Timestamp.now
  let random ← IO.getRandomBytes 16
  let saltValue ← IO.getEnv Environment.saltName
  let authorizeValue ← IO.getEnv Environment.authorizeName
  let named ← IO.getEnv "XDG_CONFIG_HOME"
  let home ← IO.getEnv "HOME"
  return {
    environment := ⟨saltValue, authorizeValue⟩
    configFolder := configFolder named home
    read := fileEntry
    input := do lineBytes (← IO.getStdin) []
    now := moment
    nonce := Nonce.next 0 (Nonce.reading clock.toNanosecondsSinceUnixEpoch.val)
    ids := ObjectId.drawn random.data.toList }

end AccessControl.CommandLine

/-- The program. -/
def main (args : List String) : IO UInt32 := do
  let outcome ← AccessControl.CommandLine.program (← AccessControl.CommandLine.machine) args
  IO.print outcome.output
  IO.eprint outcome.errors
  return outcome.exitCode.toUInt32
