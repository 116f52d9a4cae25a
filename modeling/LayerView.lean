import LayerView.Main
import LayerView.Proofs.Assigning
import LayerView.Proofs.Collisions
import LayerView.Proofs.ColorProperties
import LayerView.Proofs.Declaring
import LayerView.Proofs.Effects
import LayerView.Proofs.Findings
import LayerView.Proofs.Identifiers
import LayerView.Proofs.InstanceMethods
import LayerView.Proofs.LetterClasses
import LayerView.Proofs.LineStarts
import LayerView.Proofs.Lines
import LayerView.Proofs.OneLine
import LayerView.Proofs.Places
import LayerView.Proofs.PropertyLines
import LayerView.Proofs.Provenance
import LayerView.Proofs.Recoloring
import LayerView.Proofs.References
import LayerView.Proofs.Search
import LayerView.Proofs.Slices
import LayerView.Proofs.Traces
import LayerView.Proofs.Writing
import LayerView.Proofs.Captions
import LayerView.Proofs.DrawHistories
import LayerView.Proofs.Exchanges
import LayerView.Proofs.PropertyNames
import LayerView.Proofs.ConventionalLabels
import LayerView.Proofs.FirstPlaces
import LayerView.Proofs.CapturedLiterals
import LayerView.Proofs.InsertedBlocks
import LayerView.Proofs.PathNames
import LayerView.Proofs.PairedFiles
import LayerView.Proofs.DrawEntries
import LayerView.Proofs.PairOutputs
import LayerView.Proofs.Qualifiers
import LayerView.Proofs.StringLiterals
import LayerView.Proofs.WholeReceivers
import LayerView.Proofs.LetterColors
import LayerView.Proofs.FramePlacement
import LayerView.Proofs.ConversionEvents
import LayerView.Proofs.LineOffsets
import LayerView.Proofs.WordCuts
import LayerView.Proofs.Scenes
import LayerView.Proofs.RunSteps
import LayerView.Proofs.FailedRuns
import LayerView.Proofs.RepeatWarnings
