import Vetted.FileSystem.Text
import Vetted.Generated.Emission

namespace Vetted.Generated

def isMarked (fs : FileSystem) (p : Path) : Except Failure Bool :=
  match fs.readStart p with
  | .ok text => .ok (Text.startsWith text marker)
  | .error (.fileFault fault) => if fault.kind.isReported then .ok false else .error (.fileFault fault)
  | .error failure => .error failure

def unwritable (p : Path) (fault : FileFault) : Failure :=
  if fault.kind.isReported then .unwritableOutput p.text fault else .fileFault fault

end Vetted.Generated
