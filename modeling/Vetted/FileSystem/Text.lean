import Vetted.Failure
import Vetted.FileSystem

namespace Vetted.FileSystem

def readUtf8 (fs : FileSystem) (p : Path) : Except Failure String := do
  let bytes ← (fs.read p).mapError .fileFault
  (Text.decodeUtf8 bytes).mapError .undecodable

def readText (fs : FileSystem) (p : Path) : Except Failure String := do
  let text ← fs.readUtf8 p
  return String.ofList (Text.unifyLineEnds text.toList)

def readStart (fs : FileSystem) (p : Path) : Except Failure String := do
  let bytes ← (fs.read p).mapError .fileFault
  (Text.decodeStart bytes).mapError .undecodable

end Vetted.FileSystem
