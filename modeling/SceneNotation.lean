import SceneNotation.FileSystem.Changes
import SceneNotation.Main
import SceneNotation.Proofs.Notation
import SceneNotation.Proofs.Step
import SceneNotation.Session
import SceneNotation.Proofs.Line
import SceneNotation.Proofs.Budget
import SceneNotation.Proofs.Origin
import SceneNotation.Proofs.Breakdown
import SceneNotation.Proofs.Splice
import SceneNotation.Proofs.Conditional
import SceneNotation.Proofs.Deed
import SceneNotation.Proofs.Reading
import SceneNotation.Proofs.Invariant
import SceneNotation.Proofs.Warning
import SceneNotation.Proofs.Strictness
import SceneNotation.Proofs.Inlining
import SceneNotation.Proofs.Continuation
import SceneNotation.Proofs.Verbatim
import SceneNotation.Proofs.Layout
import SceneNotation.Proofs.Tables
import SceneNotation.Proofs.Scan
import SceneNotation.Proofs.Agreement
import SceneNotation.Proofs.Termination
import SceneNotation.Proofs.Storage
import SceneNotation.Proofs.Alphabet
import SceneNotation.Proofs.Delivery
import SceneNotation.Proofs.Footprint
import SceneNotation.Proofs.Terminators
import SceneNotation.Proofs.Atomicity
import SceneNotation.Proofs.LineCount
import SceneNotation.Proofs.Replacement
import SceneNotation.Proofs.Speech
import SceneNotation.Proofs.Boost
import SceneNotation.Proofs.Rejection
import SceneNotation.Proofs.Independence
import SceneNotation.Proofs.LineEnds
import SceneNotation.Proofs.LineTokens
import SceneNotation.Proofs.Colour
import SceneNotation.Proofs.Placement
import SceneNotation.Proofs.Catalogue
import SceneNotation.Proofs.Words
