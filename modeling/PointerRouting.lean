import PointerRouting.Generator
import PointerRouting.Gesture
import PointerRouting.Journal
import PointerRouting.Proofs.Coherence
import PointerRouting.Proofs.Exclusion
import PointerRouting.Router
import PointerRouting.Proofs.Contention
import PointerRouting.Proofs.Atomicity
import PointerRouting.Proofs.Arrivals
import PointerRouting.Proofs.BoundedLog
import PointerRouting.Proofs.FreshStart
import PointerRouting.Proofs.Audit
import PointerRouting.Proofs.GestureEnd
import PointerRouting.Proofs.HoverPairs
import PointerRouting.Proofs.PointerAlgebra
import PointerRouting.Proofs.Writers
import PointerRouting.Proofs.Warnings
import PointerRouting.Proofs.Modes
import PointerRouting.Proofs.Pilfering
import PointerRouting.Proofs.Diagnostics
import PointerRouting.Proofs.Delivery
import PointerRouting.Proofs.Landings
import PointerRouting.Proofs.Slipping
import PointerRouting.Proofs.Pruning
import PointerRouting.Proofs.Tallies
import PointerRouting.Proofs.Refusals
import PointerRouting.Proofs.Foreground
import PointerRouting.Reading
import PointerRouting.Proofs.ExactNumbers
import PointerRouting.Proofs.FirstLandings
import PointerRouting.Proofs.MaskTexts
import PointerRouting.Proofs.BoundedDraws
import PointerRouting.Proofs.PointerCounts
import PointerRouting.Proofs.Delimiting
import PointerRouting.Proofs.RoutingTexts
import PointerRouting.Proofs.Replay
