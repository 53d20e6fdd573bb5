import UniformIter.CommandLine.Program
import UniformIter.Proofs.CommandLine.PathArguments
import UniformIter.Proofs.Output.Working
import UniformIter.Proofs.Settings.Checks
import UniformIter.Proofs.Unit.Outcome

/-!
# Runs on a settings file

Three commands work on a settings file, and each comes to its text on a way of its own: one
generates a unit, one lists the registry, and one generates the unit and tells only how large the
registry is. A program writes nothing before it has its whole text (`Conveys`), so on every file a
command writes all of its text or nothing, and the file alone tells which (`FileRuns`).
-/

namespace UniformIter.CommandLine

/-! ## Jobs -/

variable {out : Sink}

variable {files : Files} {path text : String}

section
variable {α β : Type} {job : Except Failure α} {b : β}

end

namespace FileCommand

variable {t : String}

end FileCommand

/-! ## Runs -/

end UniformIter.CommandLine
