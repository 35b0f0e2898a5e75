import LayeredConfig.CommandLine.Run
import Std.Time.Format
import Std.Time.Zoned

/-!
The program as a process: it reads the one file that a run needs, draws an identity, and prints what
the run gives, with the time in front of each line of the log.
-/

namespace LayeredConfig.Shell

/-- The number and the words by which the system reports an error. -/
def reportOf : IO.Error → UInt32 × String
  | .noFileOrDirectory _ code words | .inappropriateType _ code words
  | .invalidArgument _ code words | .permissionDenied _ code words
  | .resourceExhausted _ code words | .noSuchThing _ code words | .alreadyExists _ code words
  | .interrupted _ code words | .otherError code words | .resourceBusy code words
  | .resourceVanished code words | .unsupportedOperation code words | .hardwareFault code words
  | .unsatisfiedConstraints code words | .illegalOperation code words | .protocolError code words
  | .timeExpired code words => (code, words)
  | .unexpectedEof => (5, "Input/output error")
  | .userError words => (5, words)

/-- The number of an error, whichever sign it is reported with. -/
def errorNumber (code : UInt32) : Nat :=
  if code < 0x80000000 then code.toNat else (0 - code).toNat

def readFile (path : Storage.Path) : IO (Except Storage.ReadFault (List UInt8)) := do
  try
    pure (.ok (← IO.FS.readBinFile path.text).data.toList)
  catch fault =>
    let (code, words) := reportOf fault
    pure (.error (.ofCode (errorNumber code) words))

def hex (octets : List UInt8) : String :=
  String.ofList (octets.flatMap fun octet => Text.hexDigits 2 octet.toNat)

/-- A random identity of sixteen octets, of which a few bits mark it as random. -/
def identityText (octets : List UInt8) : String :=
  let marked := octets.mapIdx fun i octet =>
    if i = 6 then octet &&& 0x0F ||| 0x40 else if i = 8 then octet &&& 0x3F ||| 0x80 else octet
  "-".intercalate [hex (marked.take 4), hex ((marked.drop 4).take 2), hex ((marked.drop 6).take 2),
    hex ((marked.drop 8).take 2), hex (marked.drop 10)]

def noticeText (time : String) : CommandLine.Notice → String
  | .logged event =>
    " - ".intercalate [time, event.reporter, event.severity.name, event.message] ++ "\n"
  | .text content => content

end LayeredConfig.Shell

open LayeredConfig in
def main (arguments : List String) : IO UInt32 := do
  let content ←
    match CommandLine.fileOf arguments with
    | some path => Shell.readFile path
    | none => pure (.error .notFound)
  let around : Surroundings :=
    ⟨fun _ => content, .ofText (toString (← IO.currentDir)),
      Shell.identityText (← IO.getRandomBytes 16).data.toList⟩
  match CommandLine.run around arguments with
  | .ok outcome =>
    let time := (← Std.Time.PlainDateTime.now).format "uuuu-MM-dd HH:mm:ss,SSS"
    for notice in outcome.notices do
      IO.eprint (Shell.noticeText time notice)
    IO.print outcome.output
    pure (UInt32.ofNat outcome.exitCode)
  | .error fault => throw (IO.userError fault.message)
