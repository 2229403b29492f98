import BandedPalette.Session
namespace BandedPalette.Main

def faultOf : IO.Error → FileFault
  | .noFileOrDirectory _ _ _ => .notFound
  | .inappropriateType _ 20 _ => .notDirectory
  | .inappropriateType _ 21 _ => .isDirectory
  | .invalidArgument _ 36 _ => .nameTooLong
  | .invalidArgument _ 22 _ => .badName
  | error => .other (toString error)

def read (path : String) : IO (Except FileFault String) := do
  match ← (IO.FS.readBinFile path).toBaseIO with
  | .error error => return .error (faultOf error)
  | .ok content =>
      match String.fromUTF8? content with
      | none => return .error .notText
      | some text => return .ok text

def write (path text : String) : IO (Except FileFault Unit) := do
  match ← (IO.FS.writeFile path text).toBaseIO with
  | .error error => return .error (faultOf error)
  | .ok () => return .ok ()

def surroundings : Surroundings IO :=
  ⟨read, write, IO.print⟩

def usage : String :=
  "usage: encode [--index N] [--formula FILE] [--fmt text|jsonl]\n" ++
  "       analyze [--reference FILE] [--formula FILE] [--top N] [--bands] [--fmt text|json]\n" ++
  "       series [--reference FILE] [--formula FILE] [--fmt csv|jsonl] [--out FILE]\n" ++
  "       formula inspect [--formula FILE]\n" ++
  "       formula dump [--out FILE]\n" ++
  "       tint --index N --base COLOR [--formula FILE]\n"

end BandedPalette.Main

open BandedPalette in
def main (arguments : List String) : IO UInt32 := do
  match Command.ofArguments arguments with
  | .error .help =>
      IO.print Main.usage
      return 0
  | .error _ =>
      IO.eprint Main.usage
      return 2
  | .ok command =>
      match ← (command.perform Main.surroundings).run with
      | .ok () => return 0
      | .error failure =>
          IO.eprintln ("Error: " ++ failure.message)
          return 1
