import MapTheme.Main
import MapTheme.Proofs.Semantics
import MapTheme.Proofs.Separation
import MapTheme.Proofs.Precedence
import MapTheme.Proofs.Transcript
import MapTheme.Proofs.Cleaning
import MapTheme.Proofs.Overlays
import MapTheme.Proofs.Presentation
import MapTheme.Proofs.Composition
import MapTheme.Proofs.Alternatives
import MapTheme.Proofs.Census
import MapTheme.Proofs.Compact
import MapTheme.Proofs.Delivery
import MapTheme.Proofs.Ancestry
import MapTheme.Proofs.Pairing
import MapTheme.Proofs.Location
import MapTheme.Proofs.Numbering
import MapTheme.Proofs.Containment
import MapTheme.Proofs.Growth
import MapTheme.Proofs.Telling
import MapTheme.Proofs.Rounding
import MapTheme.Proofs.Numeral
import MapTheme.Proofs.Pieces
import MapTheme.Proofs.Clamping
import MapTheme.Proofs.Coloring
