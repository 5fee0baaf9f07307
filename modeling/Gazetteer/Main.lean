import Gazetteer.Command.Run

/-! The program. -/
namespace Gazetteer.Main

/-- Why reading failed. -/
def faultOf : IO.Error → ReadFault
  | .noFileOrDirectory _ _ _ => .notFound
  | .permissionDenied _ _ _ => .notPermitted
  | .inappropriateType _ 20 _ => .notDirectory
  | .inappropriateType _ 21 _ => .isDirectory
  | .invalidArgument _ 36 _ => .nameTooLong
  | e => .other (toString e)

/-- The text of bytes that were read. -/
def textOf (read : IO ByteArray) : IO (Except ReadFault String) := do
  match ← read.toBaseIO with
  | .error e => return .error (faultOf e)
  | .ok bytes =>
    match String.fromUTF8? bytes with
    | some text => return .ok text
    | none => return .error .notText

def isPresent (path : String) : IO Bool := do
  match ← (IO.FS.Handle.mk path .read).toBaseIO with
  | .ok _ => return true
  | .error (.noFileOrDirectory _ _ _) => return false
  | .error (.inappropriateType _ 20 _) => return false
  | .error _ => return true

/-- Reads a stream to its end. -/
partial def readAll (input : IO.FS.Stream) (done : ByteArray) : IO ByteArray := do
  let bytes ← input.read 65536
  if bytes.isEmpty then return done else readAll input (done ++ bytes)

/-- The files of the machine. -/
def files : Files IO where
  isPresent := isPresent
  read path := textOf (IO.FS.readBinFile path)
  readInput := do textOf (readAll (← IO.getStdin) .empty)
  directory := do return (← IO.currentDir).toString

/-- Plain words for text that is refused. -/
def wording : Wording where
  pattern _ pattern := "not a valid pattern: " ++ pattern
  document format _ := "not valid " ++ format.name

/-- The machine. Of inputs that cannot be read the first is told. -/
def host : Command.Host IO where
  files := files
  wording := wording
  race := ⟨fun first _ => first, fun _ _ => List.mem_cons_self⟩

end Gazetteer.Main

/-- Runs the command line that the program was called with. -/
def main (words : List String) : IO UInt32 := do
  let preset ← IO.getEnv "NERB_CONFIG"
  let outcome ← Gazetteer.Command.run Gazetteer.Main.host preset words
  IO.print outcome.stdout
  (← IO.getStdout).flush
  IO.eprint outcome.stderr
  return .ofNat outcome.exit.number
