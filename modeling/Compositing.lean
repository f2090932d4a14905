import Compositing.Output.Framebuffer
import Compositing.Screen
import Compositing.Surface.Listing
import Compositing.Proofs.Separation
import Compositing.Proofs.Cells
import Compositing.Proofs.Pixels
import Compositing.Proofs.Playback
import Compositing.Proofs.Containment
import Compositing.Proofs.Ink
import Compositing.Proofs.Repaint
import Compositing.Proofs.Tables
import Compositing.Proofs.Operations
import Compositing.Proofs.Schedule
import Compositing.Proofs.Coverage
import Compositing.Proofs.LeastCover
import Compositing.Proofs.Strokes
import Compositing.Proofs.Links
import Compositing.Proofs.Mirror
import Compositing.Proofs.Blending
import Compositing.Proofs.Premultiplied
import Compositing.Proofs.Agenda
import Compositing.Proofs.LazyTimers
import Compositing.Proofs.Completion
import Compositing.Proofs.Protocol
import Compositing.Proofs.Layout
import Compositing.Proofs.Rerooting
import Compositing.Proofs.Pointer
import Compositing.Proofs.Isolation
import Compositing.Proofs.Redraws
import Compositing.Proofs.Flushing
import Compositing.Proofs.InPlace
import Compositing.Proofs.Refusals
import Compositing.Proofs.Storage
import Compositing.Proofs.RowMoves
import Compositing.Proofs.Survival
import Compositing.Proofs.Painting
import Compositing.Proofs.SoleTimers
import Compositing.Proofs.Scanning
import Compositing.Proofs.Accounts
import Compositing.Proofs.Nesting
import Compositing.Proofs.Unwinding
import Compositing.Proofs.Bracketing
import Compositing.Proofs.Clipping
import Compositing.Proofs.Nearest
import Compositing.Proofs.FanOut
import Compositing.Proofs.Fitting
import Compositing.Proofs.Hulls
import Compositing.Proofs.Overlaps
import Compositing.Proofs.BrushLoops
import Compositing.Proofs.Reservation
import Compositing.Proofs.Quadrant
