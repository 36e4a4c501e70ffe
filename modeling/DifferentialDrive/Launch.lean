import DifferentialDrive.Launch.Configuration
import DifferentialDrive.Launch.Options

/-!
# Launching the service

From arguments and files to a run of the service. The configuration is read before the log level
is settled, and that before anything runs.
-/

namespace DifferentialDrive

structure Launch where
  config : Document.Value
  limit : Service.Limit
  /-- The least level that is logged. -/
  threshold : Int

namespace Launch

/-- The configuration in a named file, or the standard one. -/
def configuration (files : String → Except FileFault String) :
    Options.Source → Except Problem Document.Value
  | .standard => .ok standard
  | .file path =>
    match files path with
    | .ok text => parse path text
    | .error f => .error (.file (.ofString path) f)
  | .nothing => .error (.failure .badSetting)

def prepare (files : String → Except FileFault String) (args : List String) :
    Except Problem Launch := do
  let options ← Options.parse args
  let config ← configuration files options.config
  let threshold ← thresholdOf config
  return ⟨config, options.limit, threshold⟩

end Launch

end DifferentialDrive
