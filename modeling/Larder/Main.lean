import Larder.Service.Run

/-!
The service as a program.  It starts among the files and variables of its process, logs to standard
output, and runs until its standard input ends.  It keeps values and documents in its own memory;
servers are out of its reach.
-/

namespace Larder.Main

open Settings (Loader Surroundings Variables)

/-- What the process keeps while it runs. -/
structure Memory where
  now : Instant
  table : Cache.Table
  settings : CacheSettings
  server : Option Redis.Address
  documents : Store.Memory.State

/-- The response where no server can be reached. -/
def unreachable : Redis.Response :=
  .noConnection (.backend (.io "Connection refused (os error 111)"))

/-- Answers for a database that cannot be reached; identifiers are random. -/
def noDatabase : (d : Sql.Demand) → StateM Memory d.Response
  | .connect _ => return .error .poolTimedOut
  | .migrate _ => return .error .poolClosed
  | .query _ => return .error .poolClosed
  | .execute _ => return .error .poolClosed
  | .startTransaction => return .error .poolClosed
  | .commit => return .error .poolClosed
  | .close => return ()
  | .identifier => return (Uuid.random 0).text

/-- The parts of a service in one process; `seed` makes its identifiers differ from those of other
runs. -/
def parts (seed : Nat) : Service.Parts Memory where
  cache :=
    { clock := Memory.now
      table := ⟨Memory.table, fun a m => { m with table := a }⟩
      settings := ⟨Memory.settings, fun a m => { m with settings := a }⟩
      server := ⟨Memory.server, fun a m => { m with server := a }⟩
      send := fun _ _ => return unreachable }
  store :=
    { ids := fun n => (Uuid.random (seed + n)).text
      memory := ⟨Memory.documents, fun a m => { m with documents := a }⟩
      database := noDatabase }

/-- The variables in a block of them, each with its end marked. -/
def variablesOf (block : List UInt8) : Variables :=
  Dict.ofList ((block.splitOn 0).filterMap fun entry =>
    let cs := (Utf8.decodeLossy entry).toList
    let name := cs.takeWhile (· != '=')
    if name.isEmpty then none
    else some (String.ofList name, String.ofList (cs.drop (name.length + 1))))

def readIfThere (path : String) : IO (Option (List String × String)) := do
  try
    let content ← IO.FS.readFile path
    return some ((path.splitOn "/").filter (fun step => step != "." && step != ""), content)
  catch _ => return none

def surroundings : IO Surroundings := do
  let block ← IO.FS.readBinFile "/proc/self/environ"
  let vars := variablesOf block.data.toList
  let loader := Loader.create Loader.defaultDirectory vars
  let paths := ".env" :: loader.fileNames.map loader.pathOf
  return ⟨(← paths.mapM readIfThere).filterMap id, vars⟩

def write (logger : Option (Logging.Filter × Logging.Format))
    (records : List Logging.Record) : IO Unit :=
  match logger with
  | none => return ()
  | some (filter, format) =>
    for r in records do
      if r.isEnabled filter then IO.println (r.line format)

partial def waitForEnd (input : IO.FS.Stream) : IO Unit := do
  let line ← input.getLine
  if line.isEmpty then return () else waitForEnd input

def run : IO UInt32 := do
  let seed ← IO.rand 0 (1 <<< 128)
  let first : Memory := ⟨⟨0, 0⟩, [], Cache.Noop.settings, none, .empty⟩
  let (start, memory) :=
    ((parts seed).start (← surroundings) : StateM Memory (Service.Start Memory Unit)) first
  write start.logger start.records
  match start.outcome with
  | .error e =>
    IO.eprintln (Service.complaint e)
    return 1
  | .ok running =>
    waitForEnd (← IO.getStdin)
    write start.logger ((running.stop .terminate).run memory).1
    return 0

end Larder.Main

def main : IO UInt32 := Larder.Main.run
