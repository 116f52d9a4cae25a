import LayerView.Pass.Colors
import LayerView.Pass.Fonts
import LayerView.Pass.Frames
import LayerView.Pass.Texts
import LayerView.ViewClass

/-!
# Converting a Swift drawing

The class is first made a view class.  Then colors, texts and fonts become properties, pass by pass,
each over the source that the pass before left; the frames of filled layers are assigned between the
colors and the texts.  At last the properties are declared and the methods of a view are added.
-/

namespace LayerView

/-- A value and the events on the way to it. -/
structure Reported (α : Type) where
  value : α
  events : List Event
deriving DecidableEq, Repr

/-- A Swift drawing turned into a view class. -/
structure Conversion where
  source : Text
  /-- The declarations in the body, in order. -/
  declarations : List Declaration
  /-- The names that were asked for more than once, in order. -/
  duplicates : List Text
deriving DecidableEq, Repr

namespace Conversion

/-- The passes over a source, with what each leaves. -/
structure Passes where
  colors : List (Edit ColorVariable)
  frames : List (Edit FrameVariable)
  texts : List (Edit TextVariable)
  fonts : List (Edit FontVariable)
deriving DecidableEq, Repr

/-- Run the passes over the source of a view class. -/
def Passes.run (source : Text) : Passes :=
  let mark := Caption.swiftMark
  let colors := Pass.colors mark source
  -- Which layers have a frame is known once their fill colors are.
  let frames := Pass.frames (Pass.framesOf (Edit.findings colors)) (Edit.source colors)
  let texts := Pass.texts mark (Edit.source frames)
  let fonts := Pass.fonts mark (Edit.source texts)
  { colors, frames, texts, fonts }

namespace Passes

/-- The frames of the filled layers. -/
def frameVariables (p : Passes) : List FrameVariable := Pass.framesOf (Edit.findings p.colors)

/-- All variables: colors, frames, texts, then fonts. -/
def allVariables (p : Passes) : List Variable :=
  (Edit.findings p.colors).map .color ++ p.frameVariables.map .frame ++
    (Edit.findings p.texts).map .text ++ (Edit.findings p.fonts).map .font

/-- The source after the last pass. -/
def source (p : Passes) : Text := Edit.source p.fonts

/-- What the passes report, with the number of literals of each kind at the end. -/
def events (p : Passes) : List Event :=
  Edit.reports p.colors ++ Edit.reports p.frames ++ Edit.reports p.texts ++ Edit.reports p.fonts ++
    [.literalsFound (Edit.findings p.colors).length p.frameVariables.length
      (Edit.findings p.texts).length (Edit.findings p.fonts).length]

end Passes

/-- A drawing as a view class, before its literals become properties. -/
def viewSource (o : Options) (source : Text) : Text :=
  ViewClass.addInitializers (ViewClass.rebase source o.baseType) o.background

/-- The reports on repeated names, which are made only on request. -/
def repeatEvents (verbose : Bool) (duplicates : List Text) : List Event :=
  if verbose then duplicates.map .nameRepeated else []

/-- Convert a Swift drawing. -/
def run (o : Options) (source : Text) : Reported Conversion :=
  let passes := Passes.run (viewSource o source)
  -- One registry serves all kinds, so a text cannot take a name that a color has.
  let granted := ViewClass.grantAll .empty passes.allVariables
  let declared := ViewClass.declare passes.source granted.declarations
  { value :=
      -- The draw entry comes last: no pass may take its lines for those of the drawing.
      { source := ViewClass.addDrawEntry declared
        declarations := granted.declarations
        duplicates := granted.registry.duplicates }
    events :=
      passes.events ++ repeatEvents o.verbose granted.registry.duplicates ++
        [.declaring granted.declarations.length] ++
        ((ViewClass.firstDrawFunction? declared).map fun f => .drawEntryAdded f.name).toList }

end Conversion

/-- Convert a drawing under options that have to be for Swift. -/
def convert (o : Options) (source : Text) : Reported (Option Conversion) :=
  match o.dialect with
  | .swift =>
    let r := Conversion.run o source
    { value := some r.value, events := r.events }
  | .objc => { value := none, events := [.dialectUnsupported o.dialect] }

end LayerView
