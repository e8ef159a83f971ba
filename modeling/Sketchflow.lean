import Sketchflow.Host.Rehearsal
import Sketchflow.Main
import Sketchflow.Proofs.Api.Changes
import Sketchflow.Proofs.Api.Coercions
import Sketchflow.Proofs.Api.Workspaces
import Sketchflow.Proofs.Canvas
import Sketchflow.Proofs.Compile.Comments
import Sketchflow.Proofs.Compile.Noted
import Sketchflow.Proofs.Compile.Numbers
import Sketchflow.Proofs.Compile.Paths
import Sketchflow.Proofs.Compile.Precedence
import Sketchflow.Proofs.Graph.Identifiers
import Sketchflow.Proofs.Host.Fate
import Sketchflow.Proofs.Host.Keys
import Sketchflow.Proofs.Listing.Offside
import Sketchflow.Proofs.Loading
import Sketchflow.Proofs.Naming
import Sketchflow.Proofs.Palette.Filed
import Sketchflow.Proofs.Session.Captions
