import TraceCheck.Proofs.Engine.Failures

/-!
# Loading directories

A directory can be loaded as far as possible or only as a whole.  Both ways meet the same
entries in the same order, and each entry has the same rule or is refused for the same
reason.  What loading comes to can therefore be told from the list of these results: the
rules in it are stored one after the other, so that the last one of an identifier stays,
and the refusals are reported.  Loading as a whole differs only where there is a refusal;
then the first one is the outcome.
-/

namespace TraceCheck

/-! ## Results of entries -/

section

variable {results : List (Except EngineError Rule)}

end

namespace RuleDirectory

end RuleDirectory

/-! ## Loading -/

namespace Engine

variable {e : Engine}

end Engine

end TraceCheck
